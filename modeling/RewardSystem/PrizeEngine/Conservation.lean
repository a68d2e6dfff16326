import RewardSystem.Lib.Bookkeeping
import RewardSystem.PrizeEngine.Transitions

/-!
# Conservation of pools, balances and stock
-/

namespace RewardSystem.PrizeEngine

open ReadCommitted

/-! ## The statements -/

section Statements

variable {db : Tables} {projectId prizeId : Nat} {project : Project}
  {environment : SaaSEnvironment} {drawCost rewardAmount : Int}

theorem updateProjectState_eq_some {row' : Project}
    (h : updateProjectStateForSettlement db projectId project environment drawCost rewardAmount =
      some row') :
    ∃ row, db.rows (.project projectId) = some row ∧
      (rewardAmount = 0 ∨ rewardAmount ≤ row.prizePoolBalance) ∧
      row' = { row with
        prizePoolBalance := max (row.prizePoolBalance + drawCost - rewardAmount) 0 } := by
  unfold updateProjectStateForSettlement at h
  split at h
  case h_1 => cases h
  case h_2 row hrow =>
    split at h
    case isTrue hwhere => exact ⟨row, hrow, hwhere.2.2.2, (Option.some.inj h).symm⟩
    case isFalse => cases h

theorem decrementPrizeStock_eq_some {row' : Prize}
    (h : decrementPrizeStockForSettlement db projectId prizeId = some row') :
    ∃ row, db.rows (.prize prizeId) = some row ∧ row.projectId = projectId ∧ 0 < row.stock ∧
      row' = { row with stock := row.stock - 1 } := by
  unfold decrementPrizeStockForSettlement at h
  split at h
  case h_1 => cases h
  case h_2 row hrow =>
    split at h
    case isTrue hwhere => exact ⟨row, hrow, hwhere.1, hwhere.2.2.2, (Option.some.inj h).symm⟩
    case isFalse => cases h

theorem restorePrizeStock_of_row {row : Prize} (hrow : db.rows (.prize prizeId) = some row)
    (hproject : row.projectId = projectId) :
    restorePrizeStockAfterSettlementFallback db projectId prizeId =
      some { row with stock := row.stock + 1 } := by
  simp [restorePrizeStockAfterSettlementFallback, hrow, hproject]

theorem loadProjectState_eq_some {row : Project}
    (h : loadProjectState db projectId environment = some row) :
    db.rows (.project projectId) = some row := by
  unfold loadProjectState at h
  exact (Option.filter_eq_some_iff.mp h).1

end Statements

/-! ## What a stage knows -/

def Stage.project : Stage → Option Project
  | .loadAgent project | .loadLegacyPlayer project _ | .insertAgent project _
  | .reloadAgent project | .updateAgent project _ _ | .loadPlayer project | .insertPlayer project
  | .reloadPlayer project | .updatePlayer project | .loadReplay project | .selectPrize project
  | .decrementStock project _ _ | .settleWin project _ _ | .restoreStock project _
  | .reloadProject project | .settleProject project _ | .updateBalance project _ _
  | .insertRecord project _ _ _ => some project
  | _ => none

/-- The prize whose stock is taken and not settled. -/
def Stage.reserved : Stage → Option Nat
  | .settleWin _ prizeId _ | .restoreStock _ prizeId => some prizeId
  | _ => none

section Stages

variable {t : Nat} {input : RewardInput} {db : Tables} {stage : Stage} {action : Statement}

theorem Does.project (h : Does t input db stage action) {project : Project}
    (hnext : action.next.stage.project = some project) :
    stage.project = some project ∨
      loadProjectState db input.projectId input.environment = some project := by
  cases h
  case projectLoaded hproject =>
    obtain rfl := Option.some.inj hnext
    exact .inr hproject
  all_goals first
    | exact .inl hnext
    | cases hnext

/-- Stock is taken by the UPDATE of the prize's row, and stays taken while the row is not written
again. -/
theorem Does.reserved (h : Does t input db stage action) {prizeId : Nat}
    (hnext : action.next.stage.reserved = some prizeId) :
    (stage.reserved = some prizeId ∧ ∃ next, action = .goto next) ∨
      ∃ row next, decrementPrizeStockForSettlement db input.projectId prizeId = some row ∧
        action = .write (.prize prizeId) row next := by
  cases h
  case stockTaken hstock =>
    obtain rfl := Option.some.inj hnext
    exact .inr ⟨_, _, hstock, rfl⟩
  case winRefused => exact .inl ⟨hnext, _, rfl⟩
  all_goals cases hnext

end Stages

/-! ## The books of the engine -/

section Books

variable (sound : Nat → Prop) [DecidablePred sound]

def poolMoved (projectId : Nat) (change : Int) : Key → Int
  | .project p => if sound p ∧ p = projectId then change else 0
  | _ => 0

def balanceMoved (projectId : Nat) (externalPlayerId : String) (change : Int) : Key → Int
  | .player p x => if p = projectId ∧ x = externalPlayerId then change else 0
  | _ => 0

def stockMoved (prizeId : Option Nat) : Key → Int
  | .prize z => if prizeId = some z then -1 else 0
  | _ => 0

/-- Pools, balances and stock against the draw records. Only the pools of the projects in `sound`
are accounted for. -/
def engineBooks : Books Nat Row Entry Execution where
  amount
    | .project p, row => if sound p then row.prizePoolBalance else 0
    | .agent _ _, _ => 0
    | .player _ _, row => row.balance
    | .prize _, row => row.stock
  delta
    | .drawRecord record, k =>
        poolMoved sound record.projectId (record.drawCost - record.rewardAmount) k +
          balanceMoved record.projectId record.externalPlayerId
            (record.rewardAmount - record.drawCost) k +
          stockMoved record.prizeId k
    | .responseSnapshot _ _, _ => 0
  owed x k :=
    match x.stage with
    | .settleWin _ prizeId _ | .restoreStock _ prizeId => stockMoved (some prizeId) k
    | .updateBalance project prizeId rewardAmount =>
        poolMoved sound x.input.projectId (project.drawCost - rewardAmount) k +
          stockMoved prizeId k
    | .insertRecord project prizeId rewardAmount _ =>
        poolMoved sound x.input.projectId (project.drawCost - rewardAmount) k +
          balanceMoved x.input.projectId x.input.externalPlayerId
            (rewardAmount - project.drawCost) k +
          stockMoved prizeId k
    | _ => 0
  rowOk
    | .project p, row => sound p → 0 ≤ row.drawCost ∧ 0 ≤ row.prizePoolBalance
    | .agent _ _, _ => True
    | .player _ _, _ => True
    | .prize _, row => 0 ≤ row.stock
  sessionOk _ s :=
    (∀ project, s.state.stage.project = some project → sound s.state.input.projectId →
      0 ≤ project.drawCost) ∧
    ∀ prizeId, s.state.stage.reserved = some prizeId →
      ∃ row : Prize, s.writes (.prize prizeId) = some row ∧
        row.projectId = s.state.input.projectId

variable {sound} {db : Tables}

theorem amountAt_of_row {k : Key} {row : Row k} (h : db.rows k = some row) :
    (engineBooks sound).amountAt db k = (engineBooks sound).amount k row := by
  simp [Books.amountAt, h]

/-- The pool update moves the pool by cost and reward. The clamp at zero does nothing in a sound
project: a pool that can pay the reward, or has none to pay, stays nonnegative. -/
theorem updateProjectState_moves {projectId : Nat} {project row' : Project}
    {environment : SaaSEnvironment} {drawCost rewardAmount : Int}
    (hrows : (engineBooks sound).RowsOk db) (hcost : sound projectId → 0 ≤ drawCost)
    (h : updateProjectStateForSettlement db projectId project environment drawCost rewardAmount =
      some row') :
    (engineBooks sound).rowOk (.project projectId) row' ∧
      (engineBooks sound).amount (.project projectId) row' =
        (engineBooks sound).amountAt db (.project projectId) +
          poolMoved sound projectId (drawCost - rewardAmount) (.project projectId) := by
  obtain ⟨row, hrow, hpays, rfl⟩ := updateProjectState_eq_some h
  have hrowOk : sound projectId → 0 ≤ row.drawCost ∧ 0 ≤ row.prizePoolBalance :=
    hrows (.project projectId) row hrow
  rw [amountAt_of_row hrow]
  by_cases hsound : sound projectId
  · have hc := hcost hsound
    have hr := hrowOk hsound
    have hclamp : max (row.prizePoolBalance + drawCost - rewardAmount) 0 =
        row.prizePoolBalance + (drawCost - rewardAmount) := by omega
    refine ⟨fun _ => ⟨hr.1, le_max_right _ _⟩, ?_⟩
    simpa [engineBooks, poolMoved, hsound] using hclamp
  · exact ⟨fun h => absurd h hsound, by simp [engineBooks, poolMoved, hsound]⟩

theorem amountAt_missing {k : Key} (h : db.rows k = none) :
    (engineBooks sound).amountAt db k = 0 := by
  simp [Books.amountAt, h]

theorem amountAt_agent (projectId : Nat) (agentId : String) :
    (engineBooks sound).amountAt db (.agent projectId agentId) = 0 := by
  unfold Books.amountAt
  split <;> rfl

omit [DecidablePred sound] in
theorem stockMoved_of_ne {prizeId : Nat} {k : Key} (hne : k ≠ .prize prizeId) :
    stockMoved (some prizeId) k = 0 := by
  unfold stockMoved
  split
  case h_1 z =>
    have hz : prizeId ≠ z := fun h => hne (by rw [h])
    simp [hz]
  case h_2 => rfl

theorem poolMoved_of_ne {projectId : Nat} {change : Int} {k : Key} (hne : k ≠ .project projectId) :
    poolMoved sound projectId change k = 0 := by
  unfold poolMoved
  split
  case h_1 p =>
    have hp : p ≠ projectId := fun h => hne (by rw [h])
    simp [hp]
  case h_2 => rfl

theorem balanceMoved_of_ne {projectId : Nat} {externalPlayerId : String} {change : Int} {k : Key}
    (hne : k ≠ .player projectId externalPlayerId) :
    balanceMoved projectId externalPlayerId change k = 0 := by
  unfold balanceMoved
  split
  case h_1 p x =>
    have hp : ¬(p = projectId ∧ x = externalPlayerId) := fun h => hne (by rw [h.1, h.2])
    simp [hp]
  case h_2 => rfl

/-- **Every statement of a request keeps the books.** -/
theorem Does.entered {t : Nat} {input : RewardInput} {stage : Stage} {action : Statement}
    (h : Does t input db stage action) (hrows : (engineBooks sound).RowsOk db)
    (hcost : ∀ project, stage.project = some project → sound input.projectId →
      0 ≤ project.drawCost)
    (hreserved : ∀ prizeId, stage.reserved = some prizeId →
      ∃ row : Prize, db.rows (.prize prizeId) = some row ∧ row.projectId = input.projectId) :
    (engineBooks sound).Entered db ⟨input, stage⟩ action := by
  cases h with
  | throws => exact fun k => rfl
  | agentInserted project legacyPlayer hmissing =>
      refine ⟨trivial, ?_, fun k hk => rfl⟩
      rw [amountAt_agent]
      rfl
  | agentUpdated project agent legacyPlayer hrow =>
      refine ⟨trivial, ?_, fun k hk => rfl⟩
      rw [amountAt_agent]
      rfl
  | playerInserted project hmissing =>
      refine ⟨trivial, ?_, fun k hk => rfl⟩
      rw [amountAt_missing hmissing]
      rfl
  | playerUpdated project hrow =>
      refine ⟨trivial, ?_, fun k hk => rfl⟩
      rw [amountAt_of_row hrow]
      simp [engineBooks, patchedPlayer]
  | stockTaken project rewardAmount hstock =>
      obtain ⟨row, hrow, -, hpositive, rfl⟩ := decrementPrizeStock_eq_some hstock
      refine ⟨?_, ?_, fun k hk => stockMoved_of_ne hk⟩
      · change 0 ≤ row.stock - 1
        omega
      · rw [amountAt_of_row hrow]
        simp [engineBooks, stockMoved]
  | @winSettled project row prizeId rewardAmount hpool =>
      obtain ⟨hrow, hmoved⟩ := updateProjectState_moves hrows (hcost project rfl) hpool
      refine ⟨hrow, ?_, ?_⟩
      · change poolMoved sound input.projectId _ (.project input.projectId) +
          stockMoved (some prizeId) (.project input.projectId) = 0 + (_ - _)
        rw [hmoved]
        simp [stockMoved]
      · intro k hk
        simp [engineBooks, poolMoved_of_ne hk]
  | @stockRestored project prizeId row' hstock =>
      obtain ⟨row, hrow, hproject⟩ := hreserved prizeId rfl
      rw [restorePrizeStock_of_row hrow hproject] at hstock
      obtain rfl := Option.some.inj hstock
      have hstock : 0 ≤ row.stock := hrows (.prize prizeId) row hrow
      refine ⟨?_, ?_, fun k hk => (stockMoved_of_ne hk).symm⟩
      · change 0 ≤ row.stock + 1
        omega
      · rw [amountAt_of_row hrow]
        simp [engineBooks, stockMoved]
  | stockLost project hstock =>
      obtain ⟨row, hrow, hproject⟩ := hreserved _ rfl
      rw [restorePrizeStock_of_row hrow hproject] at hstock
      cases hstock
  | @nothingMoved project rewardAmount hzero =>
      intro k
      change poolMoved sound input.projectId (project.drawCost - rewardAmount) k +
        stockMoved none k = 0
      rw [hzero.1, hzero.2]
      cases k <;> simp [poolMoved, stockMoved]
  | @missSettled project row rewardAmount hpool =>
      obtain ⟨hrow, hmoved⟩ := updateProjectState_moves hrows (hcost project rfl) hpool
      refine ⟨hrow, ?_, ?_⟩
      · change poolMoved sound input.projectId _ (.project input.projectId) +
          stockMoved none (.project input.projectId) = 0 + (_ - _)
        rw [hmoved]
        simp [stockMoved]
      · intro k hk
        change poolMoved sound input.projectId _ k + stockMoved none k = 0
        rw [poolMoved_of_ne hk]
        cases k <;> simp [stockMoved]
  | balanceUpdated project prizeId rewardAmount hrow =>
      refine ⟨trivial, ?_, ?_⟩
      · rw [amountAt_of_row hrow]
        simp [engineBooks, balanceMoved, poolMoved, stockMoved, settledPlayer]
        omega
      · intro k hk
        simp [engineBooks, balanceMoved_of_ne hk]
  | recordInserted project prizeId rewardAmount player =>
      intro k
      simp [engineBooks, drawRecordOf]
  | recordCommitted response => exact fun k => ⟨rfl, rfl⟩
  | replayCommitted response => exact fun k => ⟨rfl, rfl⟩
  | snapshotCommitted response => exact fun k => ⟨rfl, rfl⟩
  | snapshotStored response => exact fun k => rfl
  | _ => exact fun k => rfl

theorem engine_sessionOk {t : Nat} {s : Session Row Entry Execution} {action : Statement}
    (hrows : (engineBooks sound).RowsOk (s.view db)) (hs : (engineBooks sound).sessionOk t s)
    (hexec : rewardEngine.exec t s.state (s.view db) = some action) :
    (engineBooks sound).sessionOk t (s.after action) := by
  have hdoes : Does t s.state.input (s.view db) s.state.stage action :=
    Execution.exec_does hexec
  have hinput : action.next.input = s.state.input := Execution.exec_input hexec
  refine ⟨?_, ?_⟩
  · intro project hproject hsound
    rw [Session.after_state] at hproject hsound
    rw [hinput] at hsound
    rcases hdoes.project hproject with hbefore | hloaded
    · exact hs.1 project hbefore hsound
    · exact (hrows (.project _) project (loadProjectState_eq_some hloaded) hsound).1
  · intro prizeId hreserved
    rw [Session.after_state] at hreserved ⊢
    rw [hinput]
    rcases hdoes.reserved hreserved with ⟨hbefore, next, rfl⟩ | ⟨row', next, hstock, rfl⟩
    · exact hs.2 prizeId hbefore
    · obtain ⟨row, -, hproject, -, rfl⟩ := decrementPrizeStock_eq_some hstock
      exact ⟨{ row with stock := row.stock - 1 }, by simp [Session.after], hproject⟩

theorem engine_keeps_books : (engineBooks sound).Kept rewardEngine fun _ => True where
  start_owed request k := rfl
  start_ok t request _ := by
    refine ⟨?_, ?_⟩
    · intro project h
      cases h
    · intro prizeId h
      cases h
  exec_ok t s db action hrows hs hexec := engine_sessionOk hrows hs hexec
  exec_entered t s db action hrows hs hexec := by
    apply (Execution.exec_does hexec).entered hrows hs.1
    intro prizeId hreserved
    obtain ⟨row, hwrite, hproject⟩ := hs.2 prizeId hreserved
    exact ⟨row, by simp [Session.view, hwrite], hproject⟩

end Books

/-! ## Conservation -/

def prizePoolBalance (db : Tables) (projectId : Nat) : Int :=
  match db.rows (.project projectId) with
  | none => 0
  | some row => row.prizePoolBalance

def playerBalance (db : Tables) (projectId : Nat) (externalPlayerId : String) : Int :=
  match db.rows (.player projectId externalPlayerId) with
  | none => 0
  | some row => row.balance

def prizeStock (db : Tables) (prizeId : Nat) : Int :=
  match db.rows (.prize prizeId) with
  | none => 0
  | some row => row.stock

def drawRecords (entries : List Entry) : List DrawRecord :=
  entries.filterMap fun
    | .drawRecord record => some record
    | .responseSnapshot _ _ => none

/-- The records settled from `db` to `db'`. -/
def settledRecords (db db' : Tables) : List DrawRecord :=
  drawRecords (db'.log.drop db.log.length)

def drawCosts (records : List DrawRecord) : Int :=
  (records.map (·.drawCost)).sum

def rewardAmounts (records : List DrawRecord) : Int :=
  (records.map (·.rewardAmount)).sum

/-- The pool has moved by the settled draw costs and rewards, and is not negative. -/
def PoolConserved (db db' : Tables) (projectId : Nat) : Prop :=
  let records := (settledRecords db db').filter fun record => record.projectId = projectId
  prizePoolBalance db' projectId =
      prizePoolBalance db projectId + drawCosts records - rewardAmounts records ∧
    0 ≤ prizePoolBalance db' projectId

/-- The player has been charged and paid what the player's own records say. -/
def BalanceConserved (db db' : Tables) (projectId : Nat) (externalPlayerId : String) : Prop :=
  let records := (settledRecords db db').filter fun record =>
    record.projectId = projectId ∧ record.externalPlayerId = externalPlayerId
  playerBalance db' projectId externalPlayerId =
    playerBalance db projectId externalPlayerId - (drawCosts records - rewardAmounts records)

/-- One piece of the stock is gone for every settled record that carries the prize. -/
def StockConserved (db db' : Tables) (prizeId : Nat) : Prop :=
  prizeStock db' prizeId =
      prizeStock db prizeId -
        ((settledRecords db db').filter fun record => record.prizeId = some prizeId).length ∧
    0 ≤ prizeStock db' prizeId

section Amounts

variable {sound : Nat → Prop} [DecidablePred sound] {db : Tables}

theorem amountAt_project {projectId : Nat} (hsound : sound projectId) :
    (engineBooks sound).amountAt db (.project projectId) = prizePoolBalance db projectId := by
  unfold Books.amountAt prizePoolBalance
  cases db.rows (.project projectId) <;> simp [engineBooks, hsound]

theorem amountAt_player (projectId : Nat) (externalPlayerId : String) :
    (engineBooks sound).amountAt db (.player projectId externalPlayerId) =
      playerBalance db projectId externalPlayerId := by
  unfold Books.amountAt playerBalance
  cases db.rows (.player projectId externalPlayerId) <;> rfl

theorem amountAt_prize (prizeId : Nat) :
    (engineBooks sound).amountAt db (.prize prizeId) = prizeStock db prizeId := by
  unfold Books.amountAt prizeStock
  cases db.rows (.prize prizeId) <;> rfl

theorem prizePoolBalance_nonneg (hrows : (engineBooks sound).RowsOk db) {projectId : Nat}
    (hsound : sound projectId) : 0 ≤ prizePoolBalance db projectId := by
  unfold prizePoolBalance
  split
  · exact le_refl 0
  · next row hrow => exact (hrows (.project projectId) row hrow hsound).2

theorem prizeStock_nonneg (hrows : (engineBooks sound).RowsOk db) (prizeId : Nat) :
    0 ≤ prizeStock db prizeId := by
  unfold prizeStock
  split
  · exact le_refl 0
  · next row hrow => exact hrows (.prize prizeId) row hrow

end Amounts

section Totals

variable (sound : Nat → Prop) [DecidablePred sound] (entries : List Entry)

theorem total_cons (entry : Entry) (k : Key) :
    (engineBooks sound).total (entry :: entries) k =
      (engineBooks sound).delta entry k + (engineBooks sound).total entries k := by
  simp [Books.total]

theorem total_project {projectId : Nat} (hsound : sound projectId) :
    (engineBooks sound).total entries (.project projectId) =
      drawCosts ((drawRecords entries).filter fun record => record.projectId = projectId) -
        rewardAmounts ((drawRecords entries).filter fun record =>
          record.projectId = projectId) := by
  induction entries with
  | nil => rfl
  | cons entry rest ih =>
      rw [total_cons, ih]
      cases entry with
      | responseSnapshot id response => simp [engineBooks, drawRecords]
      | drawRecord record =>
          by_cases hproject : record.projectId = projectId
          · simp [engineBooks, drawRecords, poolMoved, balanceMoved, stockMoved, drawCosts,
              rewardAmounts, hproject, hsound]
            omega
          · simp [engineBooks, drawRecords, poolMoved, balanceMoved, stockMoved, drawCosts,
              rewardAmounts, hproject, Ne.symm hproject]

theorem total_player (projectId : Nat) (externalPlayerId : String) :
    (engineBooks sound).total entries (.player projectId externalPlayerId) =
      rewardAmounts ((drawRecords entries).filter fun record =>
          record.projectId = projectId ∧ record.externalPlayerId = externalPlayerId) -
        drawCosts ((drawRecords entries).filter fun record =>
          record.projectId = projectId ∧ record.externalPlayerId = externalPlayerId) := by
  induction entries with
  | nil => rfl
  | cons entry rest ih =>
      rw [total_cons, ih]
      cases entry with
      | responseSnapshot id response => simp [engineBooks, drawRecords]
      | drawRecord record =>
          by_cases hplayer :
              record.projectId = projectId ∧ record.externalPlayerId = externalPlayerId
          · simp [engineBooks, drawRecords, poolMoved, balanceMoved, stockMoved, drawCosts,
              rewardAmounts, hplayer]
            omega
          · have hother : ¬(projectId = record.projectId ∧
                externalPlayerId = record.externalPlayerId) :=
              fun h => hplayer ⟨h.1.symm, h.2.symm⟩
            simp [engineBooks, drawRecords, poolMoved, balanceMoved, stockMoved, drawCosts,
              rewardAmounts, hplayer, hother]

theorem total_prize (prizeId : Nat) :
    (engineBooks sound).total entries (.prize prizeId) =
      -((drawRecords entries).filter fun record => record.prizeId = some prizeId).length := by
  induction entries with
  | nil => rfl
  | cons entry rest ih =>
      rw [total_cons, ih]
      cases entry with
      | responseSnapshot id response => simp [engineBooks, drawRecords]
      | drawRecord record =>
          by_cases hprize : record.prizeId = some prizeId
          · simp [engineBooks, drawRecords, poolMoved, balanceMoved, stockMoved, hprize,
              Int.add_comm]
          · simp [engineBooks, drawRecords, poolMoved, balanceMoved, stockMoved, hprize]

end Totals

/-- In every interleaving of reward requests, balances and stock are the opening ones moved by the
settled records, and so is the pool of every project that opens with a nonnegative pool and charges
a nonnegative draw cost. -/
theorem rewards_conserve {db : Tables} {sys : System Nat Row Entry Execution}
    {events : List (Transition.Event (System Nat Row Entry Execution) (Label Nat RewardInput))}
    (hrun : Transition.Run (Steps rewardEngine) (System.idle db) events sys)
    (hstock : ∀ prizeId row, db.rows (.prize prizeId) = some row → 0 ≤ row.stock) :
    (∀ projectId,
      (∀ row, db.rows (.project projectId) = some row →
        0 ≤ row.drawCost ∧ 0 ≤ row.prizePoolBalance) →
      PoolConserved db sys.committed projectId) ∧
    (∀ projectId externalPlayerId,
      BalanceConserved db sys.committed projectId externalPlayerId) ∧
    ∀ prizeId, StockConserved db sys.committed prizeId := by
  classical
  let sound : Nat → Prop := fun projectId => ∀ row, db.rows (.project projectId) = some row →
    0 ≤ row.drawCost ∧ 0 ≤ row.prizePoolBalance
  have hopening : (engineBooks sound).RowsOk db := by
    rintro (p | ⟨p, a⟩ | ⟨p, x⟩ | z) row hrow
    · exact fun hsound => hsound row hrow
    · trivial
    · trivial
    · exact hstock z row hrow
  have hkept : (engineBooks sound).Kept rewardEngine fun _ => True := engine_keeps_books
  obtain ⟨entries, hlog, hrows, hamounts⟩ :=
    hkept.conserved hrun hopening fun _ _ _ _ _ => trivial
  have hsettled : settledRecords db sys.committed = drawRecords entries := by
    simp [settledRecords, hlog]
  refine ⟨?pools, ?balances, ?stocks⟩
  case pools =>
    intro projectId hsound
    have hamount := hamounts (.project projectId)
    rw [amountAt_project hsound, amountAt_project hsound, total_project sound entries hsound,
      ← hsettled] at hamount
    refine ⟨?_, prizePoolBalance_nonneg hrows hsound⟩
    rw [hamount]
    omega
  case balances =>
    intro projectId externalPlayerId
    have hamount := hamounts (.player projectId externalPlayerId)
    rw [amountAt_player, amountAt_player, total_player sound entries, ← hsettled] at hamount
    unfold BalanceConserved
    rw [hamount]
    omega
  case stocks =>
    intro prizeId
    have hamount := hamounts (.prize prizeId)
    rw [amountAt_prize, amountAt_prize, total_prize sound entries, ← hsettled] at hamount
    refine ⟨?_, prizeStock_nonneg hrows prizeId⟩
    rw [hamount]
    omega

/-! A project with one player and one prize. -/

def openingTables (drawCost prizePoolBalance : Int) : Tables where
  rows
    | .project 1 => some ⟨1, .sandbox, .active, drawCost, prizePoolBalance⟩
    | .agent 1 "agent-1" => some ⟨none, none, none, .active⟩
    | .player 1 "player-1" => some ⟨none, 1000, 0, none⟩
    | .prize 7 => some ⟨1, 2, 400, true, none⟩
    | _ => none
  log := []

def rewardRequest (authAgentId idempotencyKey : String) (selection : Option Nat) : RewardInput where
  projectId := 1
  authAgentId := some authAgentId
  environment := .sandbox
  externalPlayerId := "player-1"
  displayName := none
  playerMetadata := none
  agentId := "player-1"
  agentGroupId := none
  ownerMetadata := none
  fingerprint := none
  rewardMultiplier := 1
  idempotencyKey := idempotencyKey
  requestFingerprint := "request"
  enforceIdempotency := true
  selection := selection

/-- Two requests select the prize from a pool that can pay it once: the second one gives its piece
back and settles a miss. -/
theorem rewards_conserve_fallback :
    ∃ events sys, Transition.Run (Steps rewardEngine) (System.idle (openingTables 100 500)) events
        sys ∧
      ((settledRecords (openingTables 100 500) sys.committed).map (·.prizeId) = [some 7, none]) ∧
      PoolConserved (openingTables 100 500) sys.committed 1 ∧
      BalanceConserved (openingTables 100 500) sys.committed 1 "player-1" ∧
      StockConserved (openingTables 100 500) sys.committed 7 := by
  obtain ⟨events, sys, hrun, hrecords⟩ := Transition.Run.exists_of_check (machine rewardEngine)
    (System.idle (openingTables 100 500))
    (.begin 0 (rewardRequest "agent-1" "first" (some 7)) ::
      .begin 1 (rewardRequest "agent-1" "second" (some 7)) :: .statement 1 ::
      (List.replicate 14 (.statement 0) ++ List.replicate 16 (.statement 1)))
    (fun _ sys => (settledRecords (openingTables 100 500) sys.committed).map (·.prizeId) =
      [some 7, none]) (by decide +kernel)
  have hproject : ∀ row, (openingTables 100 500).rows (.project 1) = some row →
      0 ≤ row.drawCost ∧ 0 ≤ row.prizePoolBalance := by
    rintro row hrow
    obtain rfl := Option.some.inj hrow
    decide
  have hstock : ∀ prizeId row, (openingTables 100 500).rows (.prize prizeId) = some row →
      0 ≤ row.stock := by
    intro prizeId row hrow
    by_cases hprize : prizeId = 7
    · subst hprize
      obtain rfl := Option.some.inj hrow
      decide
    · simp [openingTables, hprize] at hrow
  obtain ⟨hpool, hbalance, hprize⟩ := rewards_conserve hrun hstock
  exact ⟨events, sys, hrun, of_decide_eq_true hrecords, hpool 1 hproject, hbalance 1 "player-1",
    hprize 7⟩

/-- A project may have a negative draw cost. The clamp then keeps the pool at zero while the player
is paid in full. -/
theorem not_poolConserved_of_negative_cost :
    ∃ events sys, Transition.Run (Steps rewardEngine) (System.idle (openingTables (-1000) 500))
        events sys ∧
      ¬PoolConserved (openingTables (-1000) 500) sys.committed 1 := by
  obtain ⟨events, sys, hrun, hcheck⟩ := Transition.Run.exists_of_check (machine rewardEngine)
    (System.idle (openingTables (-1000) 500))
    (.begin 0 (rewardRequest "agent-1" "first" none) :: List.replicate 13 (.statement 0))
    (fun _ sys => prizePoolBalance sys.committed 1 = 0 ∧
      drawCosts ((settledRecords (openingTables (-1000) 500) sys.committed).filter
        fun record => record.projectId = 1) = -1000 ∧
      rewardAmounts ((settledRecords (openingTables (-1000) 500) sys.committed).filter
        fun record => record.projectId = 1) = 0) (by decide +kernel)
  obtain ⟨hpool, hcosts, hrewards⟩ := of_decide_eq_true hcheck
  refine ⟨events, sys, hrun, ?_⟩
  rintro ⟨hmoved, -⟩
  rw [hpool, hcosts, hrewards] at hmoved
  have hopening : prizePoolBalance (openingTables (-1000) 500) 1 = 500 := rfl
  omega

end RewardSystem.PrizeEngine
