import RewardSystem.PrizeEngine.Reward

namespace RewardSystem.PrizeEngine

open ReadCommitted

/-- What the statement at a stage can do, with what it has found in the tables. -/
inductive Does (t : Nat) (input : RewardInput) (db : Tables) : Stage → Statement → Prop
  | throws (stage : Stage) (error : ApiError) :
      Does t input db stage (.rollback ⟨input, .answered (.error error)⟩)
  | projectLoaded {project : Project}
      (hproject : loadProjectState db input.projectId input.environment = some project) :
      Does t input db .loadProject (.goto ⟨input, .loadAgent project⟩)
  | agentLoaded (project : Project) :
      Does t input db (.loadAgent project)
        (.goto ⟨input, .loadLegacyPlayer project (db.rows input.agentKey)⟩)
  | agentMissing (project : Project) (legacyPlayer : Option Player) :
      Does t input db (.loadLegacyPlayer project none)
        (.goto ⟨input, .insertAgent project legacyPlayer⟩)
  | agentPresent (project : Project) (agent : Agent) (legacyPlayer : Option Player) :
      Does t input db (.loadLegacyPlayer project (some agent))
        (.goto ⟨input, .updateAgent project agent legacyPlayer⟩)
  | agentInserted (project : Project) (legacyPlayer : Option Player)
      (hmissing : db.rows input.agentKey = none) :
      Does t input db (.insertAgent project legacyPlayer)
        (.write input.agentKey (insertedAgent input legacyPlayer)
          ⟨input, .reloadAgent project⟩)
  | agentConflict (project : Project) (legacyPlayer : Option Player)
      (hpresent : db.rows input.agentKey ≠ none) :
      Does t input db (.insertAgent project legacyPlayer) (.goto ⟨input, .reloadAgent project⟩)
  | agentReloaded (project : Project) :
      Does t input db (.reloadAgent project) (.goto ⟨input, .loadPlayer project⟩)
  | agentUpdated (project : Project) (agent : Agent) (legacyPlayer : Option Player) {row : Agent}
      (hrow : db.rows input.agentKey = some row) :
      Does t input db (.updateAgent project agent legacyPlayer)
        (.write input.agentKey (patchedAgent input agent legacyPlayer row)
          ⟨input, .loadPlayer project⟩)
  | agentGone (project : Project) (agent : Agent) (legacyPlayer : Option Player)
      (hmissing : db.rows input.agentKey = none) :
      Does t input db (.updateAgent project agent legacyPlayer)
        (.goto ⟨input, .loadPlayer project⟩)
  | playerMissing (project : Project) (hmissing : db.rows input.playerKey = none) :
      Does t input db (.loadPlayer project) (.goto ⟨input, .insertPlayer project⟩)
  | playerPresent (project : Project) (hpresent : db.rows input.playerKey ≠ none)
      (hprofile : input.displayName ≠ none ∨ input.playerMetadata ≠ none) :
      Does t input db (.loadPlayer project) (.goto ⟨input, .updatePlayer project⟩)
  | playerKept (project : Project)
      (hprofile : ¬(input.displayName ≠ none ∨ input.playerMetadata ≠ none)) :
      Does t input db (.loadPlayer project) (.goto ⟨input, .loadReplay project⟩)
  | playerInserted (project : Project) (hmissing : db.rows input.playerKey = none) :
      Does t input db (.insertPlayer project)
        (.write input.playerKey (insertedPlayer input) ⟨input, .reloadPlayer project⟩)
  | playerConflict (project : Project) (hpresent : db.rows input.playerKey ≠ none) :
      Does t input db (.insertPlayer project) (.goto ⟨input, .reloadPlayer project⟩)
  | playerReloaded (project : Project) :
      Does t input db (.reloadPlayer project) (.goto ⟨input, .loadReplay project⟩)
  | playerUpdated (project : Project) {row : Player} (hrow : db.rows input.playerKey = some row) :
      Does t input db (.updatePlayer project)
        (.write input.playerKey (patchedPlayer input row) ⟨input, .loadReplay project⟩)
  | playerGone (project : Project) (hmissing : db.rows input.playerKey = none) :
      Does t input db (.updatePlayer project) (.goto ⟨input, .loadReplay project⟩)
  | replayFound (project : Project) {replay : RewardResponse}
      (hreplay : loadIdempotentRewardReplay db input = .ok (some replay)) :
      Does t input db (.loadReplay project) (.goto ⟨input, .commitReplay replay⟩)
  | replayMissing (project : Project) (hreplay : loadIdempotentRewardReplay db input = .ok none) :
      Does t input db (.loadReplay project) (.goto ⟨input, .selectPrize project⟩)
  | replaySkipped (project : Project) (hskip : input.enforceIdempotency ≠ true) :
      Does t input db (.loadReplay project) (.goto ⟨input, .selectPrize project⟩)
  | prizeSelected (project : Project) (prizeId : Nat) (rewardAmount : Int) :
      Does t input db (.selectPrize project)
        (.goto ⟨input, .decrementStock project prizeId rewardAmount⟩)
  | missSelected (project : Project) :
      Does t input db (.selectPrize project) (.goto ⟨input, .settleProject project 0⟩)
  | stockTaken (project : Project) {prizeId : Nat} (rewardAmount : Int) {row : Prize}
      (hstock : decrementPrizeStockForSettlement db input.projectId prizeId = some row) :
      Does t input db (.decrementStock project prizeId rewardAmount)
        (.write (.prize prizeId) row ⟨input, .settleWin project prizeId rewardAmount⟩)
  | stockGone (project : Project) (prizeId : Nat) (rewardAmount : Int) :
      Does t input db (.decrementStock project prizeId rewardAmount)
        (.goto ⟨input, .settleProject project 0⟩)
  | winSettled {project row : Project} (prizeId : Nat) {rewardAmount : Int}
      (hpool : updateProjectStateForSettlement db input.projectId project input.environment
        project.drawCost rewardAmount = some row) :
      Does t input db (.settleWin project prizeId rewardAmount)
        (.write input.projectKey row ⟨input, .updateBalance project (some prizeId) rewardAmount⟩)
  | winRefused (project : Project) (prizeId : Nat) (rewardAmount : Int) :
      Does t input db (.settleWin project prizeId rewardAmount)
        (.goto ⟨input, .restoreStock project prizeId⟩)
  | stockRestored (project : Project) {prizeId : Nat} {row : Prize}
      (hstock : restorePrizeStockAfterSettlementFallback db input.projectId prizeId = some row) :
      Does t input db (.restoreStock project prizeId)
        (.write (.prize prizeId) row ⟨input, .reloadProject project⟩)
  | stockLost (project : Project) {prizeId : Nat}
      (hstock : restorePrizeStockAfterSettlementFallback db input.projectId prizeId = none) :
      Does t input db (.restoreStock project prizeId) (.goto ⟨input, .reloadProject project⟩)
  | projectReloaded (project : Project) :
      Does t input db (.reloadProject project) (.goto ⟨input, .settleProject project 0⟩)
  | nothingMoved {project : Project} {rewardAmount : Int}
      (hzero : project.drawCost = 0 ∧ rewardAmount = 0) :
      Does t input db (.settleProject project rewardAmount)
        (.goto ⟨input, .updateBalance project none rewardAmount⟩)
  | missSettled {project row : Project} {rewardAmount : Int}
      (hpool : updateProjectStateForSettlement db input.projectId project input.environment
        project.drawCost rewardAmount = some row) :
      Does t input db (.settleProject project rewardAmount)
        (.write input.projectKey row ⟨input, .updateBalance project none rewardAmount⟩)
  | balanceUpdated (project : Project) (prizeId : Option Nat) (rewardAmount : Int) {row : Player}
      (hrow : db.rows input.playerKey = some row) :
      Does t input db (.updateBalance project prizeId rewardAmount)
        (.write input.playerKey (settledPlayer project rewardAmount row)
          ⟨input, .insertRecord project prizeId rewardAmount
            (settledPlayer project rewardAmount row)⟩)
  | recordInserted (project : Project) (prizeId : Option Nat) (rewardAmount : Int)
      (player : Player) :
      Does t input db (.insertRecord project prizeId rewardAmount player)
        (.insert (.drawRecord (drawRecordOf t input project prizeId rewardAmount))
          ⟨input, .commitRecord
            (responseOf (drawRecordOf t input project prizeId rewardAmount) player)⟩)
  | recordCommitted (response : RewardResponse) :
      Does t input db (.commitRecord response) (.commit ⟨input, .storeSnapshot response⟩)
  | replayCommitted (response : RewardResponse) :
      Does t input db (.commitReplay response) (.commit ⟨input, .answered (.ok response)⟩)
  | snapshotStored (response : RewardResponse) :
      Does t input db (.storeSnapshot response)
        (.insert (.responseSnapshot response.drawRecordId response)
          ⟨input, .commitSnapshot response⟩)
  | snapshotCommitted (response : RewardResponse) :
      Does t input db (.commitSnapshot response) (.commit ⟨input, .answered (.ok response)⟩)

namespace Execution

variable {t : Nat} {x : Execution} {db : Tables} {action : Statement} {stage : Stage}

theorem goto_eq_some : x.goto stage = some action ↔ .goto ⟨x.input, stage⟩ = action := by
  simp [goto, Execution.at]

theorem throw_eq_some {error : ApiError} :
    x.throw error = some action ↔ .rollback ⟨x.input, .answered (.error error)⟩ = action := by
  simp [Execution.throw, Execution.at]

theorem write_eq_some {key : Key} {row : Row key} :
    x.write key row stage = some action ↔ .write key row ⟨x.input, stage⟩ = action := by
  simp [write, Execution.at]

theorem ensureProjectAgent_does (h : x.ensureProjectAgent db stage = some action) :
    Does t x.input db stage action := by
  unfold ensureProjectAgent at h
  split at h
  case h_1 project => exact goto_eq_some.mp h ▸ .agentLoaded project
  case h_2 project agent =>
    dsimp only at h
    cases agent with
    | none => exact goto_eq_some.mp h ▸ .agentMissing project _
    | some agent => exact goto_eq_some.mp h ▸ .agentPresent project agent _
  case h_3 project legacyPlayer =>
    split at h
    case h_1 hrow => exact write_eq_some.mp h ▸ .agentInserted project legacyPlayer hrow
    case h_2 row hrow =>
      exact goto_eq_some.mp h ▸ .agentConflict project legacyPlayer (by simp [hrow])
  case h_4 project =>
    split at h
    case h_1 => exact throw_eq_some.mp h ▸ .throws _ _
    case h_2 => exact goto_eq_some.mp h ▸ .agentReloaded project
  case h_5 project agent legacyPlayer =>
    split at h
    case h_1 hrow => exact goto_eq_some.mp h ▸ .agentGone project agent legacyPlayer hrow
    case h_2 row hrow => exact write_eq_some.mp h ▸ .agentUpdated project agent legacyPlayer hrow
  case h_6 => cases h

theorem ensureProjectPlayer_does (h : x.ensureProjectPlayer db stage = some action) :
    Does t x.input db stage action := by
  unfold ensureProjectPlayer at h
  split at h
  case h_1 project =>
    split at h
    case h_1 hrow => exact goto_eq_some.mp h ▸ .playerMissing project hrow
    case h_2 row hrow =>
      split at h
      case isTrue hprofile =>
        exact goto_eq_some.mp h ▸ .playerPresent project (by simp [hrow]) hprofile
      case isFalse hprofile => exact goto_eq_some.mp h ▸ .playerKept project hprofile
  case h_2 project =>
    split at h
    case h_1 hrow => exact write_eq_some.mp h ▸ .playerInserted project hrow
    case h_2 row hrow =>
      exact goto_eq_some.mp h ▸ .playerConflict project (by simp [hrow])
  case h_3 project =>
    split at h
    case h_1 => exact throw_eq_some.mp h ▸ .throws _ _
    case h_2 => exact goto_eq_some.mp h ▸ .playerReloaded project
  case h_4 project =>
    split at h
    case h_1 hrow => exact goto_eq_some.mp h ▸ .playerGone project hrow
    case h_2 row hrow => exact write_eq_some.mp h ▸ .playerUpdated project hrow
  case h_5 => cases h

theorem settle_does (h : x.settle db stage = some action) : Does t x.input db stage action := by
  unfold settle at h
  split at h
  case h_1 project prizeId rewardAmount =>
    split at h
    case h_1 row hstock => exact write_eq_some.mp h ▸ .stockTaken project rewardAmount hstock
    case h_2 => exact goto_eq_some.mp h ▸ .stockGone project prizeId rewardAmount
  case h_2 project prizeId rewardAmount =>
    split at h
    case h_1 row hpool => exact write_eq_some.mp h ▸ .winSettled prizeId hpool
    case h_2 => exact goto_eq_some.mp h ▸ .winRefused project prizeId rewardAmount
  case h_3 project prizeId =>
    split at h
    case h_1 row hstock => exact write_eq_some.mp h ▸ .stockRestored project hstock
    case h_2 hstock => exact goto_eq_some.mp h ▸ .stockLost project hstock
  case h_4 project =>
    split at h
    case h_1 => exact throw_eq_some.mp h ▸ .throws _ _
    case h_2 =>
      split at h
      case isTrue => exact throw_eq_some.mp h ▸ .throws _ _
      case isFalse => exact goto_eq_some.mp h ▸ .projectReloaded project
  case h_5 project rewardAmount =>
    split at h
    case isTrue hzero =>
      split at h
      case h_1 => exact throw_eq_some.mp h ▸ .throws _ _
      case h_2 =>
        split at h
        case isTrue => exact throw_eq_some.mp h ▸ .throws _ _
        case isFalse => exact goto_eq_some.mp h ▸ .nothingMoved hzero
    case isFalse =>
      split at h
      case h_1 => exact throw_eq_some.mp h ▸ .throws _ _
      case h_2 row hpool => exact write_eq_some.mp h ▸ .missSettled hpool
  case h_6 => cases h

theorem exec_does (h : exec t x db = some action) : Does t x.input db x.stage action := by
  obtain ⟨input, stage⟩ := x
  cases stage with
  | loadProject =>
      simp only [exec] at h
      split at h
      case h_1 => exact throw_eq_some.mp h ▸ .throws _ _
      case h_2 project hproject =>
        split at h
        case isTrue => exact throw_eq_some.mp h ▸ .throws _ _
        case isFalse => exact goto_eq_some.mp h ▸ .projectLoaded hproject
  | loadReplay project =>
      simp only [exec] at h
      split at h
      case isTrue =>
        split at h
        case h_1 => exact throw_eq_some.mp h ▸ .throws _ _
        case h_2 replay hreplay => exact goto_eq_some.mp h ▸ .replayFound project hreplay
        case h_3 hreplay => exact goto_eq_some.mp h ▸ .replayMissing project hreplay
      case isFalse hskip => exact goto_eq_some.mp h ▸ .replaySkipped project hskip
  | selectPrize project =>
      simp only [exec] at h
      split at h
      case h_1 prizeId rewardAmount _ =>
        exact goto_eq_some.mp h ▸ .prizeSelected project prizeId rewardAmount
      case h_2 => exact goto_eq_some.mp h ▸ .missSelected project
  | updateBalance project prizeId rewardAmount =>
      simp only [exec] at h
      split at h
      case h_1 => exact throw_eq_some.mp h ▸ .throws _ _
      case h_2 row hrow =>
        exact write_eq_some.mp h ▸ .balanceUpdated project prizeId rewardAmount hrow
  | insertRecord project prizeId rewardAmount player =>
      exact Option.some.inj h ▸ .recordInserted project prizeId rewardAmount player
  | commitRecord response => exact Option.some.inj h ▸ .recordCommitted response
  | commitReplay response => exact Option.some.inj h ▸ .replayCommitted response
  | storeSnapshot response => exact Option.some.inj h ▸ .snapshotStored response
  | commitSnapshot response => exact Option.some.inj h ▸ .snapshotCommitted response
  | answered result => cases h
  | loadAgent | loadLegacyPlayer | insertAgent | reloadAgent | updateAgent =>
      exact ensureProjectAgent_does h
  | loadPlayer | insertPlayer | reloadPlayer | updatePlayer =>
      exact ensureProjectPlayer_does h
  | decrementStock | settleWin | restoreStock | reloadProject | settleProject =>
      exact settle_does h

theorem exec_input (h : exec t x db = some action) : action.next.input = x.input := by
  obtain ⟨input, stage⟩ := x
  have hdoes := exec_does h
  cases hdoes <;> rfl

end Execution

end RewardSystem.PrizeEngine
