import Mathlib.Data.List.MinMax
import RewardSystem.Lib.ReadCommitted
import RewardSystem.Shared.Money
import RewardSystem.Shared.Text

/-!
# The reward transaction of the prize engine

`executePrizeEngineReward`, one SQL statement a step. The outcome of `selectReward` is an input, as
it depends on a random nonce; a selection that one of the risk, envelope or billing gates drops is
the selection of no prize. A throw of one of the gates is a `stop` of the session.
-/

namespace RewardSystem.PrizeEngine

open ReadCommitted

inductive SaaSEnvironment where
  | sandbox
  | live
  deriving DecidableEq, Repr

inductive SaaSResourceStatus where
  | active
  | suspended
  | archived
  deriving DecidableEq, Repr

inductive DrawStatus where
  | won
  | miss
  deriving DecidableEq, Repr

/-- A row of `saas_projects`; amounts are counted in cents. -/
structure Project where
  tenantId : Nat
  environment : SaaSEnvironment
  status : SaaSResourceStatus
  drawCost : Int
  prizePoolBalance : Int
  deriving DecidableEq, Repr

/-- A row of `saas_agents`. -/
structure Agent where
  groupId : Option String
  ownerMetadata : Option String
  fingerprint : Option String
  status : SaaSResourceStatus
  deriving DecidableEq, Repr

/-- A row of `saas_players`. -/
structure Player where
  displayName : Option String
  balance : Int
  pityStreak : Nat
  metadata : Option String
  deriving DecidableEq, Repr

/-- A row of `saas_project_prizes`. -/
structure Prize where
  projectId : Nat
  stock : Int
  rewardAmount : Int
  isActive : Bool
  deletedAt : Option Nat
  deriving DecidableEq, Repr

/-- Agents and players are stored under their unique index. -/
inductive Key where
  | project (projectId : Nat)
  | agent (projectId : Nat) (agentId : String)
  | player (projectId : Nat) (externalPlayerId : String)
  | prize (prizeId : Nat)
  deriving DecidableEq, Repr

abbrev Row : Key → Type
  | .project _ => Project
  | .agent _ _ => Agent
  | .player _ _ => Player
  | .prize _ => Prize

/-- A row of `saas_draw_records`. -/
structure DrawRecord where
  id : Nat
  projectId : Nat
  externalPlayerId : String
  environment : SaaSEnvironment
  agentId : String
  groupId : Option String
  prizeId : Option Nat
  drawCost : Int
  rewardAmount : Int
  status : DrawStatus
  idempotencyKey : String
  requestFingerprint : String
  deriving DecidableEq, Repr

/-- The part of a `PrizeEngineRewardResponse` that the database decides. -/
structure RewardResponse where
  idempotencyKey : String
  replayed : Bool
  player : Player
  drawRecordId : Nat
  prizeId : Option Nat
  drawCost : Int
  rewardAmount : Int
  status : DrawStatus
  deriving DecidableEq, Repr

/-- The inserts into `saas_draw_records`. `updatePrizeEngineDrawRecordSnapshot` changes nothing of a
record but its `responseSnapshot`, so that it is kept as an entry of its own. -/
inductive Entry where
  | drawRecord (record : DrawRecord)
  | responseSnapshot (drawRecordId : Nat) (response : RewardResponse)
  deriving DecidableEq, Repr

/-- `PrizeEngineRewardExecutionInput` with the selection. An outer `none` stands for `undefined`. -/
structure RewardInput where
  projectId : Nat
  authAgentId : Option String
  environment : SaaSEnvironment
  externalPlayerId : String
  displayName : Option (Option String)
  playerMetadata : Option (Option String)
  agentId : String
  agentGroupId : Option String
  ownerMetadata : Option (Option String)
  fingerprint : Option (Option String)
  rewardMultiplier : ℚ
  idempotencyKey : String
  requestFingerprint : String
  enforceIdempotency : Bool
  selection : Option Nat
  deriving DecidableEq

namespace RewardInput

variable (input : RewardInput)

/-- `auth.agentId?.trim() || agent.agentId` -/
def agentScopeId : String :=
  (normalizeOptionalString input.authAgentId).getD input.agentId

/-- `resolvePrizeEngineGroupId` -/
def groupId : Option String :=
  normalizeOptionalString input.agentGroupId

abbrev projectKey : Key := .project input.projectId

abbrev agentKey : Key := .agent input.projectId input.agentScopeId

abbrev playerKey : Key := .player input.projectId input.externalPlayerId

end RewardInput

/-- The statement a call of `executePrizeEngineReward` is at, with its local variables. -/
inductive Stage where
  | loadProject
  | loadAgent (project : Project)
  | loadLegacyPlayer (project : Project) (agent : Option Agent)
  | insertAgent (project : Project) (legacyPlayer : Option Player)
  | reloadAgent (project : Project)
  | updateAgent (project : Project) (agent : Agent) (legacyPlayer : Option Player)
  | loadPlayer (project : Project)
  | insertPlayer (project : Project)
  | reloadPlayer (project : Project)
  | updatePlayer (project : Project)
  | loadReplay (project : Project)
  | selectPrize (project : Project)
  | decrementStock (project : Project) (prizeId : Nat) (rewardAmount : Int)
  | settleWin (project : Project) (prizeId : Nat) (rewardAmount : Int)
  | restoreStock (project : Project) (prizeId : Nat)
  | reloadProject (project : Project)
  | settleProject (project : Project) (rewardAmount : Int)
  | updateBalance (project : Project) (prizeId : Option Nat) (rewardAmount : Int)
  | insertRecord (project : Project) (prizeId : Option Nat) (rewardAmount : Int) (player : Player)
  | commitRecord (response : RewardResponse)
  | commitReplay (response : RewardResponse)
  | storeSnapshot (response : RewardResponse)
  | commitSnapshot (response : RewardResponse)
  | answered (result : Except ApiError RewardResponse)

structure Execution where
  input : RewardInput
  stage : Stage

def Execution.at (x : Execution) (stage : Stage) : Execution :=
  { x with stage := stage }

abbrev Tables := Database Row Entry

abbrev Statement := Action Row Entry Execution

/-! ## The statements -/

def loadProjectState (db : Tables) (projectId : Nat) (environment : SaaSEnvironment) :
    Option Project :=
  (db.rows (.project projectId)).filter fun row => row.environment = environment

def projectNotFound : ApiError := .notFound "Project not found."

/-- A reward of a throttled agent is scaled down, but not below one cent. -/
def scaleRewardAmount (base : Int) (multiplier : ℚ) : Int :=
  if 1 ≤ multiplier ∨ base ≤ 0 then base
  else
    let scaled := toCents ((base : ℚ) / 100 * multiplier)
    if 0 < scaled then scaled else 1

/-- The row that the UPDATE of `updateProjectStateForSettlement` writes, if its WHERE holds. -/
def updateProjectStateForSettlement (db : Tables) (projectId : Nat) (project : Project)
    (environment : SaaSEnvironment) (drawCost rewardAmount : Int) : Option Project :=
  match db.rows (.project projectId) with
  | none => none
  | some row =>
      if row.tenantId = project.tenantId ∧ row.environment = environment ∧ row.status = .active ∧
          (rewardAmount = 0 ∨ rewardAmount ≤ row.prizePoolBalance) then
        some { row with prizePoolBalance := max (row.prizePoolBalance + drawCost - rewardAmount) 0 }
      else none

/-- The row that the UPDATE of `decrementPrizeStockForSettlement` writes, if its WHERE holds. -/
def decrementPrizeStockForSettlement (db : Tables) (projectId prizeId : Nat) : Option Prize :=
  match db.rows (.prize prizeId) with
  | none => none
  | some row =>
      if row.projectId = projectId ∧ row.isActive = true ∧ row.deletedAt = none ∧ 0 < row.stock then
        some { row with stock := row.stock - 1 }
      else none

/-- The row that `restorePrizeStockAfterSettlementFallback` writes. -/
def restorePrizeStockAfterSettlementFallback (db : Tables) (projectId prizeId : Nat) :
    Option Prize :=
  match db.rows (.prize prizeId) with
  | none => none
  | some row => if row.projectId = projectId then some { row with stock := row.stock + 1 } else none

/-- The row of `ensureProjectAgent`'s INSERT. -/
def insertedAgent (input : RewardInput) (legacyPlayer : Option Player) : Agent where
  groupId := normalizeOptionalString input.groupId
  ownerMetadata := (input.ownerMetadata.getD none).or (legacyPlayer.bind (·.metadata))
  fingerprint := normalizeOptionalString (input.fingerprint.getD none)
  status := .active

/-- The row of `ensureProjectAgent`'s UPDATE. The patch always has a `groupId`, as the group that
`executePrizeEngineReward` passes is never `undefined`. -/
def patchedAgent (input : RewardInput) (loaded : Agent) (legacyPlayer : Option Player)
    (row : Agent) : Agent :=
  { row with
    groupId := normalizeOptionalString input.groupId
    fingerprint :=
      match input.fingerprint with
      | none => row.fingerprint
      | some value => normalizeOptionalString value
    ownerMetadata :=
      match input.ownerMetadata, loaded.ownerMetadata, legacyPlayer.bind (·.metadata) with
      | some value, _, _ => value
      | none, none, some metadata => some metadata
      | none, _, _ => row.ownerMetadata }

/-- The row of `ensureProjectPlayer`'s INSERT. -/
def insertedPlayer (input : RewardInput) : Player where
  displayName := input.displayName.getD none
  balance := 0
  pityStreak := 0
  metadata := input.playerMetadata.getD none

/-- The row of `ensureProjectPlayer`'s UPDATE. -/
def patchedPlayer (input : RewardInput) (row : Player) : Player :=
  { row with
    displayName := input.displayName.getD row.displayName
    metadata := input.playerMetadata.getD row.metadata }

/-- The records that `loadIdempotentRewardReplay` selects from. -/
def recordsUnder (projectId : Nat) (externalPlayerId : String) (environment : SaaSEnvironment)
    (idempotencyKey : String) (log : List Entry) : List DrawRecord :=
  log.filterMap fun
    | .drawRecord record =>
        if record.projectId = projectId ∧ record.externalPlayerId = externalPlayerId ∧
            record.environment = environment ∧ record.idempotencyKey = idempotencyKey then
          some record
        else none
    | .responseSnapshot _ _ => none

def readRewardResponseSnapshot (drawRecordId : Nat) (log : List Entry) : Option RewardResponse :=
  (log.filterMap fun
    | .responseSnapshot id response => if id = drawRecordId then some response else none
    | .drawRecord _ => none).getLast?

def loadIdempotentRewardReplay (db : Tables) (input : RewardInput) :
    Except ApiError (Option RewardResponse) :=
  let records := recordsUnder input.projectId input.externalPlayerId input.environment
    input.idempotencyKey db.log
  -- ORDER BY id DESC LIMIT 1
  match records.argmax fun record => record.id with
  | none => .ok none
  | some existingRecord =>
      if existingRecord.requestFingerprint ≠ input.requestFingerprint then
        .error (.conflict "Idempotency key was reused with a different request.")
      else
        match readRewardResponseSnapshot existingRecord.id db.log with
        | none => .error (.conflict "Stored idempotent reward snapshot is unavailable.")
        | some responseSnapshot => .ok (some { responseSnapshot with replayed := true })

/-- The selected prize, unless it is gone, out of stock or dearer than the pool was when the project
was loaded. -/
def selectedPrizeCandidate (db : Tables) (input : RewardInput) (project : Project) :
    Option (Nat × Int) :=
  match input.selection with
  | none => none
  | some prizeId =>
      match db.rows (.prize prizeId) with
      | none => none
      | some row =>
          if row.projectId ≠ input.projectId ∨ row.isActive = false ∨ row.deletedAt ≠ none ∨
              row.stock ≤ 0 ∨
              project.prizePoolBalance < scaleRewardAmount row.rewardAmount input.rewardMultiplier
          then none
          else some (prizeId, scaleRewardAmount row.rewardAmount input.rewardMultiplier)

def drawRecordOf (id : Nat) (input : RewardInput) (project : Project) (prizeId : Option Nat)
    (rewardAmount : Int) : DrawRecord where
  id := id
  projectId := input.projectId
  externalPlayerId := input.externalPlayerId
  environment := input.environment
  agentId := input.agentScopeId
  groupId := input.groupId
  prizeId := prizeId
  drawCost := project.drawCost
  rewardAmount := rewardAmount
  status := if 0 < rewardAmount then .won else .miss
  idempotencyKey := input.idempotencyKey
  requestFingerprint := input.requestFingerprint

def responseOf (record : DrawRecord) (player : Player) : RewardResponse where
  idempotencyKey := record.idempotencyKey
  replayed := false
  player := player
  drawRecordId := record.id
  prizeId := record.prizeId
  drawCost := record.drawCost
  rewardAmount := record.rewardAmount
  status := record.status

/-- The row of the UPDATE that charges and pays the player. -/
def settledPlayer (project : Project) (rewardAmount : Int) (row : Player) : Player :=
  { row with
    balance := row.balance - project.drawCost + rewardAmount
    pityStreak := if 0 < rewardAmount then 0 else row.pityStreak + 1 }

/-! ## `executePrizeEngineReward` -/

namespace Execution

variable (x : Execution)

def goto (stage : Stage) : Option Statement :=
  some (.goto (x.at stage))

def write (key : Key) (row : Row key) (stage : Stage) : Option Statement :=
  some (.write key row (x.at stage))

def throw (error : ApiError) : Option Statement :=
  some (.rollback (x.at (.answered (.error error))))

/-- `ensureProjectAgent` -/
def ensureProjectAgent (db : Tables) : Stage → Option Statement
  | .loadAgent project => x.goto (.loadLegacyPlayer project (db.rows x.input.agentKey))
  | .loadLegacyPlayer project agent =>
      let legacyPlayer := db.rows (.player x.input.projectId x.input.agentScopeId)
      match agent with
      | none => x.goto (.insertAgent project legacyPlayer)
      | some agent => x.goto (.updateAgent project agent legacyPlayer)
  | .insertAgent project legacyPlayer =>
      -- ON CONFLICT DO NOTHING
      match db.rows x.input.agentKey with
      | none =>
          x.write x.input.agentKey (insertedAgent x.input legacyPlayer) (.reloadAgent project)
      | some _ => x.goto (.reloadAgent project)
  | .reloadAgent project =>
      match db.rows x.input.agentKey with
      | none => x.throw (.conflict "Failed to initialize project agent.")
      | some _ => x.goto (.loadPlayer project)
  | .updateAgent project agent legacyPlayer =>
      match db.rows x.input.agentKey with
      | none => x.goto (.loadPlayer project)
      | some row =>
          x.write x.input.agentKey (patchedAgent x.input agent legacyPlayer row)
            (.loadPlayer project)
  | _ => none

/-- `ensureProjectPlayer` -/
def ensureProjectPlayer (db : Tables) : Stage → Option Statement
  | .loadPlayer project =>
      match db.rows x.input.playerKey with
      | none => x.goto (.insertPlayer project)
      | some _ =>
          if x.input.displayName ≠ none ∨ x.input.playerMetadata ≠ none then
            x.goto (.updatePlayer project)
          else x.goto (.loadReplay project)
  | .insertPlayer project =>
      -- ON CONFLICT DO NOTHING
      match db.rows x.input.playerKey with
      | none => x.write x.input.playerKey (insertedPlayer x.input) (.reloadPlayer project)
      | some _ => x.goto (.reloadPlayer project)
  | .reloadPlayer project =>
      match db.rows x.input.playerKey with
      | none => x.throw (.conflict "Failed to initialize project player.")
      | some _ => x.goto (.loadReplay project)
  | .updatePlayer project =>
      match db.rows x.input.playerKey with
      | none => x.goto (.loadReplay project)
      | some row => x.write x.input.playerKey (patchedPlayer x.input row) (.loadReplay project)
  | _ => none

def settle (db : Tables) : Stage → Option Statement
  | .decrementStock project prizeId rewardAmount =>
      match decrementPrizeStockForSettlement db x.input.projectId prizeId with
      | some row => x.write (.prize prizeId) row (.settleWin project prizeId rewardAmount)
      | none => x.goto (.settleProject project 0)
  | .settleWin project prizeId rewardAmount =>
      match updateProjectStateForSettlement db x.input.projectId project x.input.environment
          project.drawCost rewardAmount with
      | some row =>
          x.write x.input.projectKey row (.updateBalance project (some prizeId) rewardAmount)
      | none => x.goto (.restoreStock project prizeId)
  | .restoreStock project prizeId =>
      match restorePrizeStockAfterSettlementFallback db x.input.projectId prizeId with
      | some row => x.write (.prize prizeId) row (.reloadProject project)
      | none => x.goto (.reloadProject project)
  | .reloadProject project =>
      match loadProjectState db x.input.projectId x.input.environment with
      | none => x.throw projectNotFound
      | some row =>
          if row.status ≠ .active then x.throw projectNotFound
          else x.goto (.settleProject project 0)
  | .settleProject project rewardAmount =>
      if project.drawCost = 0 ∧ rewardAmount = 0 then
        match loadProjectState db x.input.projectId x.input.environment with
        | none => x.throw projectNotFound
        | some row =>
            if row.status ≠ .active then x.throw projectNotFound
            else x.goto (.updateBalance project none rewardAmount)
      else
        match updateProjectStateForSettlement db x.input.projectId project x.input.environment
            project.drawCost rewardAmount with
        | none => x.throw projectNotFound
        | some row => x.write x.input.projectKey row (.updateBalance project none rewardAmount)
  | _ => none

/-- One statement of `executePrizeEngineReward`. The number of the session stands for the id that
the sequence of `saas_draw_records` gives to its record. -/
def exec (t : Nat) (x : Execution) (db : Tables) : Option Statement :=
  match x.stage with
  | .loadProject =>
      match loadProjectState db x.input.projectId x.input.environment with
      | none => x.throw projectNotFound
      | some project =>
          if project.status ≠ .active then x.throw projectNotFound
          else x.goto (.loadAgent project)
  | .loadReplay project =>
      if x.input.enforceIdempotency = true then
        match loadIdempotentRewardReplay db x.input with
        | .error error => x.throw error
        | .ok (some replay) => x.goto (.commitReplay replay)
        | .ok none => x.goto (.selectPrize project)
      else x.goto (.selectPrize project)
  | .selectPrize project =>
      match selectedPrizeCandidate db x.input project with
      | some (prizeId, rewardAmount) => x.goto (.decrementStock project prizeId rewardAmount)
      | none => x.goto (.settleProject project 0)
  | .updateBalance project prizeId rewardAmount =>
      match db.rows x.input.playerKey with
      | none => x.throw (.conflict "Failed to update project player.")
      | some row =>
          x.write x.input.playerKey (settledPlayer project rewardAmount row)
            (.insertRecord project prizeId rewardAmount (settledPlayer project rewardAmount row))
  | .insertRecord project prizeId rewardAmount player =>
      let record := drawRecordOf t x.input project prizeId rewardAmount
      some (.insert (.drawRecord record) (x.at (.commitRecord (responseOf record player))))
  | .commitRecord response => some (.commit (x.at (.storeSnapshot response)))
  | .commitReplay response => some (.commit (x.at (.answered (.ok response))))
  -- `runPrizeEngineRewardPostCommitWork`, a transaction of its own
  | .storeSnapshot response =>
      some (.insert (.responseSnapshot response.drawRecordId response)
        (x.at (.commitSnapshot response)))
  | .commitSnapshot response => some (.commit (x.at (.answered (.ok response))))
  | .answered _ => none
  | .loadAgent _ | .loadLegacyPlayer _ _ | .insertAgent _ _ | .reloadAgent _
  | .updateAgent _ _ _ => x.ensureProjectAgent db x.stage
  | .loadPlayer _ | .insertPlayer _ | .reloadPlayer _ | .updatePlayer _ =>
      x.ensureProjectPlayer db x.stage
  | .decrementStock _ _ _ | .settleWin _ _ _ | .restoreStock _ _ | .reloadProject _
  | .settleProject _ _ => x.settle db x.stage

end Execution

def rewardEngine : Program Nat Row Entry Execution RewardInput where
  start := fun input => ⟨input, .loadProject⟩
  exec := Execution.exec

end RewardSystem.PrizeEngine
