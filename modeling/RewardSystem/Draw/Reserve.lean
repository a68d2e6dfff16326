import RewardSystem.Lib.Bookkeeping
import RewardSystem.Draw.Transitions

/-!
# The prize pool against the reserve

The reserve gate judges a pool balance that was read without a lock. What the pool holds once the
reward is paid differs from it by what other transactions committed in between, and by no more.
-/

namespace RewardSystem.Draw

open ReadCommitted Transition

/-! ## What a stage knows -/

/-- The draw of a stage between the snapshot of the pool and the last move of the pool. -/
def Stage.prepared : Stage → Option PreparedDraw
  | .lockPrize draw _ | .payoutPolicy draw _ _ | .decrementStock draw _ | .creditUserPool draw _
  | .ensureHouseFor draw _ _ | .lockHouse draw _ _ | .updateHouse draw _ _ _
  | .insertTransaction draw _ _ _ => some draw
  | _ => none

/-- The draw and the outcome of a stage behind the payout policy. -/
def Stage.resolved : Stage → Option (PreparedDraw × DrawOutcome)
  | .decrementStock draw plan | .creditUserPool draw plan => some (draw, plan.outcome)
  | .ensureHouseFor draw outcome _ | .lockHouse draw outcome _ | .updateHouse draw outcome _ _
  | .insertTransaction draw outcome _ _ | .updateUser draw outcome | .insertRecord draw outcome =>
      some (draw, outcome)
  | _ => none

def PoolChange.pays (outcome : DrawOutcome) : PoolChange → Option DrawOutcome
  | .drawCost => none
  | .drawReward => some outcome

/-- The outcome of a stage that takes the reward from the pool. -/
def Stage.payment : Stage → Option DrawOutcome
  | .ensureHouseFor _ outcome change | .lockHouse _ outcome change
  | .updateHouse _ outcome change _ | .insertTransaction _ outcome change _ => change.pays outcome
  | _ => none

def PoolChange.entered (draw : PreparedDraw) : PoolChange → Int
  | .drawCost => 0
  | .drawReward => draw.drawCost

def Stage.entered : Stage → Int
  | .ensureHouseFor draw _ change | .lockHouse draw _ change | .updateHouse draw _ change _
  | .insertTransaction draw _ change _ => change.entered draw
  | _ => 0

/-- The reserve gate, on the snapshot. -/
def ReserveKept (config : DrawConfig) (draw : PreparedDraw) (outcome : DrawOutcome) : Prop :=
  0 < config.minReserve → 0 < outcome.rewardAmount →
    config.minReserve ≤ draw.poolBalance + draw.drawCost - outcome.rewardAmount

theorem resolvePayoutPolicy_terminal {config : DrawConfig} {log : List Entry} {userId : Nat}
    {draw : PreparedDraw} {prizeId : Nat} {lockedPrize : Option Prize} {outcome : DrawOutcome}
    (h : resolvePayoutPolicy config log userId draw prizeId lockedPrize = .terminal outcome) :
    outcome.rewardAmount = 0 := by
  unfold resolvePayoutPolicy at h
  split at h
  case h_1 =>
    obtain rfl := PolicyDecision.terminal.inj h
    rfl
  case h_2 prize =>
    dsimp only at h
    repeat' split at h
    all_goals cases h
    all_goals rfl

theorem resolvePayoutPolicy_pays {config : DrawConfig} {log : List Entry} {userId : Nat}
    {draw : PreparedDraw} {prizeId : Nat} {lockedPrize : Option Prize} {plan : PrizePlan}
    (h : resolvePayoutPolicy config log userId draw prizeId lockedPrize = .pays plan) :
    ReserveKept config draw plan.outcome := by
  unfold resolvePayoutPolicy at h
  split at h
  case h_1 => cases h
  case h_2 prize =>
    dsimp only at h
    split at h
    · cases h
    split at h
    · cases h
    split at h
    · cases h
    split at h
    · cases h
    rename_i _ _ _ hgate
    repeat' split at h
    all_goals cases h
    intro hreserve _
    rw [not_and] at hgate
    have hkept := hgate hreserve
    -- the candidate is clamped at zero, below a positive reserve
    change config.minReserve ≤ draw.poolBalance + draw.drawCost - prize.rewardAmount
    omega

section Stages

variable {config : DrawConfig} {request : DrawRequest} {index : Nat} {db : Tables}
  {stage : Stage} {action : Statement}

theorem Does.resolved (h : Does config request index db stage action)
    (hstage : ∀ draw outcome, stage.resolved = some (draw, outcome) →
      ReserveKept config draw outcome)
    {draw : PreparedDraw} {outcome : DrawOutcome}
    (hnext : action.next.stage.resolved = some (draw, outcome)) :
    ReserveKept config draw outcome := by
  cases h
  case drawRefused hpolicy =>
    obtain ⟨rfl, rfl⟩ := Prod.mk.inj (Option.some.inj hnext)
    intro _ hreward
    rw [resolvePayoutPolicy_terminal hpolicy] at hreward
    exact absurd hreward (lt_irrefl 0)
  case drawWon hpolicy =>
    obtain ⟨rfl, rfl⟩ := Prod.mk.inj (Option.some.inj hnext)
    exact resolvePayoutPolicy_pays hpolicy
  case poolRead draw' house hhouse =>
    simp only [Action.next, PreparedDraw.selected] at hnext
    split at hnext
    · obtain ⟨rfl, rfl⟩ := Prod.mk.inj (Option.some.inj hnext)
      exact fun _ hreward => absurd hreward (lt_irrefl 0)
    · cases hnext
  case transactionInserted draw' outcome' change before =>
    refine hstage draw outcome ?_
    cases change
    · simp only [Action.next, afterTransaction] at hnext
      split at hnext <;> exact hnext
    · exact hnext
  all_goals first
    | exact hstage draw outcome hnext
    | cases hnext

theorem Does.payment (h : Does config request index db stage action)
    (hstage : ∀ outcome, stage.payment = some outcome → 0 < outcome.rewardAmount)
    {outcome : DrawOutcome} (hnext : action.next.stage.payment = some outcome) :
    0 < outcome.rewardAmount := by
  cases h
  case transactionInserted draw outcome' change before =>
    cases change
    · simp only [Action.next, afterTransaction] at hnext
      split at hnext
      · rename_i hreward
        obtain rfl := Option.some.inj hnext
        exact hreward
      · cases hnext
    · cases hnext
  case poolRead draw' house hhouse =>
    simp only [Action.next, PreparedDraw.selected] at hnext
    split at hnext <;> cases hnext
  case drawRefused => cases hnext
  case userPoolKept => cases hnext
  case userPoolMoved => cases hnext
  all_goals first
    | exact hstage outcome hnext
    | cases hnext

end Stages

/-! ## The books of the pool -/

/-- The pool balance of a stage that is about to write it. -/
def Stage.locked : Stage → Option Int
  | .updateHouse _ _ _ before => some before
  | _ => none

/-- What a statement has moved the pool by, without a house transaction. -/
def Stage.owed : Stage → Int
  | .insertTransaction draw outcome change _ => change.amount draw outcome
  | _ => 0

/-- The prize pool against the house transactions. -/
def poolBooks (config : DrawConfig) : Books Nat Row Entry Execution where
  amount
    | .house, row => row.prizePoolBalance
    | .user _, _ | .prize _, _ => 0
  delta
    | .houseTransaction transaction, .house => transaction.amount
    | _, _ => 0
  owed x
    | .house => x.stage.owed
    | .user _ | .prize _ => 0
  rowOk _ _ := True
  sessionOk _ s :=
    (∀ draw outcome, s.state.stage.resolved = some (draw, outcome) →
      ReserveKept config draw outcome) ∧
    (∀ outcome, s.state.stage.payment = some outcome → 0 < outcome.rewardAmount) ∧
    ∀ before, s.state.stage.locked = some before →
      ∃ house : HouseAccount, s.writes .house = some house ∧ house.prizePoolBalance = before

def poolBalance (db : Tables) : Int :=
  match db.rows .house with
  | none => 0
  | some house => house.prizePoolBalance

def poolMoved (entries : List Entry) : Int :=
  (entries.map fun
    | .houseTransaction transaction => transaction.amount
    | .drawRecord _ => 0).sum

section Books

variable {config : DrawConfig} {db : Tables}

theorem amountAt_house : (poolBooks config).amountAt db .house = poolBalance db := by
  unfold Books.amountAt poolBalance
  split
  case h_1 hmissing => simp [hmissing]
  case h_2 house hhouse => simp [hhouse, poolBooks]

theorem total_house (entries : List Entry) :
    (poolBooks config).total entries .house = poolMoved entries := by
  unfold Books.total poolMoved
  congr 1
  refine List.map_congr_left fun entry _ => ?_
  cases entry <;> rfl

theorem amountAt_user (userId : Nat) : (poolBooks config).amountAt db (.user userId) = 0 := by
  unfold Books.amountAt
  split <;> rfl

theorem amountAt_prize (prizeId : Nat) : (poolBooks config).amountAt db (.prize prizeId) = 0 := by
  unfold Books.amountAt
  split <;> rfl

theorem owed_afterTransaction (draw : PreparedDraw) (outcome : DrawOutcome) (change : PoolChange) :
    (afterTransaction draw outcome change).owed = 0 := by
  cases change
  · simp only [afterTransaction]
    split <;> rfl
  · rfl

theorem owed_selected (draw : PreparedDraw) : draw.selected.owed = 0 := by
  unfold PreparedDraw.selected
  split <;> rfl

theorem entered_write_user {request : DrawRequest} {index : Nat} {stage next : Stage}
    {userId : Nat} {row : DrawUser} (hstage : stage.owed = 0) (hnext : next.owed = 0) :
    (poolBooks config).Entered db ⟨request, index, stage⟩
      (.write (.user userId) row ⟨request, index, next⟩) := by
  refine ⟨trivial, ?_, ?_⟩
  · rw [amountAt_user]
    rfl
  · intro k _
    cases k
    · exact hnext.trans hstage.symm
    all_goals rfl

theorem entered_write_prize {request : DrawRequest} {index : Nat} {stage next : Stage}
    {prizeId : Nat} {row : Prize} (hstage : stage.owed = 0) (hnext : next.owed = 0) :
    (poolBooks config).Entered db ⟨request, index, stage⟩
      (.write (.prize prizeId) row ⟨request, index, next⟩) := by
  refine ⟨trivial, ?_, ?_⟩
  · rw [amountAt_prize]
    rfl
  · intro k _
    cases k
    · exact hnext.trans hstage.symm
    all_goals rfl

theorem entered_write_house {request : DrawRequest} {index : Nat} {stage next : Stage}
    {row : HouseAccount}
    (howed : next.owed = stage.owed + (row.prizePoolBalance - poolBalance db)) :
    (poolBooks config).Entered db ⟨request, index, stage⟩
      (.write .house row ⟨request, index, next⟩) := by
  refine ⟨trivial, ?_, ?_⟩
  · rw [amountAt_house]
    exact howed
  · intro k hk
    cases k
    · exact absurd rfl hk
    all_goals rfl

theorem entered_goto {request : DrawRequest} {index : Nat} {stage next : Stage}
    (howed : next.owed = stage.owed) :
    (poolBooks config).Entered db ⟨request, index, stage⟩ (.goto ⟨request, index, next⟩) := by
  intro k
  cases k
  · exact howed
  all_goals rfl

theorem poolBalance_of_row {house : HouseAccount} (h : db.rows .house = some house) :
    poolBalance db = house.prizePoolBalance := by
  simp [poolBalance, h]

theorem poolBalance_missing (h : db.rows .house = none) : poolBalance db = 0 := by
  simp [poolBalance, h]

/-- **Every statement of a draw keeps the books of the pool.** -/
theorem Does.entered {request : DrawRequest} {index : Nat} {stage : Stage} {action : Statement}
    (h : Does config request index db stage action)
    (hlocked : ∀ before, stage.locked = some before →
      ∃ house : HouseAccount, db.rows .house = some house ∧ house.prizePoolBalance = before) :
    (poolBooks config).Entered db ⟨request, index, stage⟩ action := by
  cases h with
  | throws =>
      intro k
      cases k <;> rfl
  | drawsDone hdone =>
      intro k
      cases k <;> exact ⟨rfl, rfl⟩
  | userLocked | userDebited | userPoolMoved | streakUpdated => exact entered_write_user rfl rfl
  | prizeLocked | stockTaken => exact entered_write_prize rfl rfl
  | houseCreated draw hmissing =>
      refine entered_write_house ?_
      rw [poolBalance_missing hmissing]
      rfl
  | houseCreatedFor draw outcome change hmissing =>
      refine entered_write_house ?_
      rw [poolBalance_missing hmissing]
      rfl
  | @houseLocked draw outcome change house hhouse =>
      refine entered_write_house ?_
      rw [poolBalance_of_row hhouse, sub_self]
      rfl
  | houseGone draw outcome change before hmissing =>
      obtain ⟨house, hhouse, -⟩ := hlocked before rfl
      rw [hmissing] at hhouse
      cases hhouse
  | @houseUpdated draw outcome change before house hhouse =>
      obtain ⟨house', hhouse', hbefore⟩ := hlocked before rfl
      refine entered_write_house ?_
      rw [poolBalance_of_row hhouse', hbefore]
      change change.amount draw outcome = 0 + (before + change.amount draw outcome - before)
      omega
  | transactionInserted draw outcome change before =>
      intro k
      cases k with
      | house =>
          change (afterTransaction draw outcome change).owed + change.amount draw outcome =
            change.amount draw outcome
          rw [owed_afterTransaction, zero_add]
      | user userId => rfl
      | prize prizeId => rfl
  | recordInserted draw outcome =>
      intro k
      cases k <;> rfl
  | poolRead hhouse => exact entered_goto (owed_selected _)
  | _ => exact entered_goto rfl

theorem Does.locked {request : DrawRequest} {index : Nat} {stage : Stage} {action : Statement}
    (h : Does config request index db stage action) {before : Int}
    (hnext : action.next.stage.locked = some before) :
    ∃ (house : HouseAccount) (next : Execution), action = .write .house house next ∧
      house.prizePoolBalance = before := by
  cases h
  case houseLocked house hhouse => exact ⟨house, _, rfl, Option.some.inj hnext⟩
  case poolRead =>
    simp only [Action.next, PreparedDraw.selected] at hnext
    split at hnext <;> cases hnext
  case transactionInserted draw outcome change before' =>
    cases change
    · simp only [Action.next, afterTransaction] at hnext
      split at hnext <;> cases hnext
    · cases hnext
  all_goals cases hnext

theorem pool_sessionOk {t : Nat} {s : Session Row Entry Execution} {action : Statement}
    (hs : (poolBooks config).sessionOk t s)
    (hexec : (drawEngine config).exec t s.state (s.view db) = some action) :
    (poolBooks config).sessionOk t (s.after action) := by
  obtain ⟨hresolved, hpayment, -⟩ := hs
  have hdoes := Execution.exec_does hexec
  have hstate : (s.after action).state = action.next := Session.after_state action
  refine ⟨?_, ?_, ?_⟩
  · intro draw outcome hnext
    rw [hstate] at hnext
    exact hdoes.resolved hresolved hnext
  · intro outcome hnext
    rw [hstate] at hnext
    exact hdoes.payment hpayment hnext
  · intro before hnext
    rw [hstate] at hnext
    obtain ⟨house, next, rfl, hbefore⟩ := hdoes.locked hnext
    exact ⟨house, by simp [Session.after], hbefore⟩

theorem pool_kept (config : DrawConfig) :
    (poolBooks config).Kept (drawEngine config) fun _ => True where
  start_owed _ k := by cases k <;> rfl
  start_ok _ _ _ := by
    refine ⟨?_, ?_, ?_⟩
    · intro draw outcome h
      cases h
    · intro outcome h
      cases h
    · intro before h
      cases h
  exec_ok _ _ _ _ _ hs hexec := pool_sessionOk hs hexec
  exec_entered t s db action _ hs hexec := by
    refine (Execution.exec_does hexec).entered fun before hbefore => ?_
    obtain ⟨house, hwrite, hpool⟩ := hs.2.2 before hbefore
    exact ⟨house, by simp [Session.view, hwrite], hpool⟩

end Books

/-! ## A draw between its snapshot and its payment -/

abbrev DrawSystem := System Nat Row Entry Execution

/-- Session `t` is in its draw `index`, with the snapshot of the pool. -/
def Drawing (t index : Nat) (sys : DrawSystem) : Prop :=
  ∃ s draw, sys.slots t = .running s ∧ s.state.index = index ∧
    s.state.stage.prepared = some draw

/-- The step is the unlocked read of the pool in the draw `index` of session `t`. -/
def ReadsPool (t index : Nat) (e : Event DrawSystem (Label Nat DrawRequest)) : Prop :=
  e.label = .statement t ∧ ∃ s draw, e.before.slots t = .running s ∧ s.state.index = index ∧
    s.state.stage = .readPool draw

/-- The draw of session `t` judges the pool by `balance`, and its transaction had entered `entered`
before it. -/
def Follows (t : Nat) (balance entered : Int) (sys : DrawSystem) : Prop :=
  ∀ s draw, sys.slots t = .running s → s.state.stage.prepared = some draw →
    draw.poolBalance = balance ∧ poolMoved s.inserts = entered + s.state.stage.entered

section Following

variable {config : DrawConfig} {sys sys' : DrawSystem} {label : Label Nat DrawRequest}
  {t index : Nat} {balance entered : Int}

theorem poolMoved_append (entries more : List Entry) :
    poolMoved (entries ++ more) = poolMoved entries + poolMoved more := by
  simp [poolMoved]

theorem prepared_selected (draw : PreparedDraw) : draw.selected.prepared = some draw := by
  unfold PreparedDraw.selected
  split <;> rfl

theorem entered_selected (draw : PreparedDraw) : draw.selected.entered = 0 := by
  unfold PreparedDraw.selected
  split <;> rfl

theorem prepared_afterTransaction {draw draw' : PreparedDraw} {outcome : DrawOutcome}
    {change : PoolChange}
    (h : (afterTransaction draw outcome change).prepared = some draw') :
    draw = draw' ∧ change = .drawCost ∧
      (afterTransaction draw outcome change).entered = draw.drawCost := by
  cases change with
  | drawCost =>
      simp only [afterTransaction] at h
      split at h
      · rename_i hreward
        exact ⟨Option.some.inj h, rfl, by
          simp [afterTransaction, hreward, Stage.entered, PoolChange.entered]⟩
      · cases h
  | drawReward => cases h

theorem Does.prepared {request : DrawRequest} {db : Tables} {stage : Stage} {action : Statement}
    (h : Does config request index db stage action) {draw : PreparedDraw}
    (hnext : action.next.stage.prepared = some draw) :
    action.next.index = index ∧ (stage.prepared = some draw ∨
      ∃ debited, stage = .readPool debited ∧ draw.poolBalance = poolBalance db ∧
        action = .goto ⟨request, index, draw.selected⟩) := by
  cases h
  case poolRead debited house hhouse =>
    obtain rfl : debited.prepare house = draw :=
      Option.some.inj ((prepared_selected _).symm.trans hnext)
    exact ⟨rfl, .inr ⟨debited, rfl, by rw [poolBalance_of_row hhouse]; rfl, rfl⟩⟩
  case transactionInserted draw' outcome change before =>
    obtain ⟨rfl, -, -⟩ := prepared_afterTransaction hnext
    exact ⟨rfl, .inl rfl⟩
  all_goals first
    | exact ⟨rfl, .inl hnext⟩
    | cases hnext

theorem Does.inserts {request : DrawRequest} {db : Tables} {s : Session Row Entry Execution}
    {action : Statement} (h : Does config request index db s.state.stage action)
    {draw draw' : PreparedDraw} (hstage : s.state.stage.prepared = some draw)
    (hnext : action.next.stage.prepared = some draw') :
    poolMoved (s.after action).inserts + s.state.stage.entered =
      poolMoved s.inserts + action.next.stage.entered := by
  obtain ⟨⟨request', index', stage⟩, writes, inserts⟩ := s
  change Does config request index db stage action at h
  cases h
  case transactionInserted draw'' outcome change before =>
    obtain ⟨-, rfl, hentered⟩ := prepared_afterTransaction hnext
    change poolMoved (inserts ++ [_]) + 0 =
      poolMoved inserts + (afterTransaction draw'' outcome .drawCost).entered
    rw [hentered, poolMoved_append, add_zero]
    simp [poolMoved, transactionOf, PoolChange.amount]
  all_goals first
    | rfl
    | cases hstage
    | cases hnext

theorem readsPool_of_enters (hstep : Steps (drawEngine config) sys label sys')
    (hbefore : ¬Drawing t index sys) (hafter : Drawing t index sys') :
    ReadsPool t index ⟨sys, label, sys'⟩ ∧
      ∃ s, sys.slots t = .running s ∧
        Follows t (poolBalance (s.view sys.committed)) (poolMoved s.inserts) sys' := by
  obtain ⟨s', draw, hs', hindex, hprepared⟩ := hafter
  rcases slot_cases hstep t with hsame | ⟨request, -, hfresh⟩ |
    ⟨s, action, hlabel, hs, hexec, hnext⟩ | hstopped
  · exact absurd ⟨s', draw, hsame ▸ hs', hindex, hprepared⟩ hbefore
  · obtain rfl := Slot.running.inj (hfresh.symm.trans hs')
    cases hprepared
  · obtain rfl := Slot.running.inj (hnext.symm.trans hs')
    rw [Session.after_state] at hindex hprepared
    obtain ⟨hindex', hfrom⟩ := (Execution.exec_does hexec).prepared hprepared
    rcases hfrom with hfrom | ⟨debited, hread, hbalance, rfl⟩
    · exact absurd ⟨s, draw, hs, hindex'.symm.trans hindex, hfrom⟩ hbefore
    · refine ⟨⟨hlabel, s, debited, hs, hindex'.symm.trans hindex, hread⟩, s, hs, ?_⟩
      intro s'' draw'' hs'' hprepared''
      obtain rfl := Slot.running.inj (hnext.symm.trans hs'')
      change draw.selected.prepared = some draw'' at hprepared''
      obtain rfl := Option.some.inj ((prepared_selected draw).symm.trans hprepared'')
      refine ⟨hbalance, ?_⟩
      change poolMoved s.inserts = poolMoved s.inserts + draw.selected.entered
      rw [entered_selected, add_zero]
  · rw [hs'] at hstopped
    cases hstopped

theorem follows_step (hfollows : Follows t balance entered sys)
    (hstep : Steps (drawEngine config) sys label sys') (hbefore : Drawing t index sys) :
    Follows t balance entered sys' := by
  obtain ⟨s₀, draw₀, hs₀, -, hprepared₀⟩ := hbefore
  intro s' draw hs' hprepared
  rcases slot_cases hstep t with hsame | ⟨request, -, hfresh⟩ |
    ⟨s, action, hlabel, hs, hexec, hnext⟩ | hstopped
  · exact hfollows s' draw (hsame ▸ hs') hprepared
  · obtain rfl := Slot.running.inj (hfresh.symm.trans hs')
    cases hprepared
  · obtain rfl := Slot.running.inj (hs.symm.trans hs₀)
    obtain rfl := Slot.running.inj (hnext.symm.trans hs')
    rw [Session.after_state] at hprepared ⊢
    have hdoes := Execution.exec_does hexec
    have hinserts := hdoes.inserts hprepared₀ hprepared
    obtain ⟨hbalance, hentered⟩ := hfollows s draw₀ hs hprepared₀
    rcases (hdoes.prepared hprepared).2 with hsame | ⟨debited, hread, -, -⟩
    · obtain rfl := Option.some.inj (hprepared₀.symm.trans hsame)
      exact ⟨hbalance, by omega⟩
    · rw [hread] at hprepared₀
      cases hprepared₀
  · rw [hs'] at hstopped
    cases hstopped

end Following

/-! ## What a winning draw leaves in the pool -/

/-- The step of session `t` from `v` to `w` takes the reward of a winning draw from the pool; `s` and
`s'` are the session before and after it. -/
structure PaysReward (config : DrawConfig) (t : Nat) (v w : DrawSystem)
    (s s' : Session Row Entry Execution) : Prop where
  running : v.slots t = .running s
  stage : ∃ draw outcome before, s.state.stage = .updateHouse draw outcome .drawReward before
  step : Steps (drawEngine config) v (.statement t) w
  paid : w.slots t = .running s'

section Drift

variable {config : DrawConfig} {db : Tables} {v w : DrawSystem} {t : Nat}
  {s s' : Session Row Entry Execution}

/-- What the pool held before the house transactions of `db`. -/
def opening (config : DrawConfig) (db : Tables) (k : Key) : ℤ :=
  (poolBooks config).amountAt db k - (poolBooks config).total db.log k

theorem pool_holds {events : List (Event DrawSystem (Label Nat DrawRequest))}
    (hrun : Run (Steps (drawEngine config)) (System.idle db) events v) :
    Holds ((poolBooks config).assertions (opening config db)) v := by
  have hconserved : (poolBooks config).Conserved (opening config db) db := fun k => by
    simp [opening]
  exact (((pool_kept config).assertions_kept (opening config db)).holds_run hrun
    (holds_idle ⟨fun _ _ _ => trivial, hconserved⟩ fun _ => trivial) fun _ _ _ _ _ => trivial).2

theorem poolBalance_view (hholds : Holds ((poolBooks config).assertions (opening config db)) v)
    (hs : v.slots t = .running s) (howed : s.state.stage.owed = 0) :
    poolBalance (s.view v.committed) = opening config db .house + poolMoved v.committed.log +
      poolMoved s.inserts := by
  have hshared := hholds.shared.2 .house
  have hown := (hholds.own t s hs).2.2 .house
  simp only [amountAt_house, total_house] at hshared hown
  change poolBalance (s.view v.committed) = poolBalance v.committed + s.state.stage.owed +
    poolMoved s.inserts at hown
  rw [hown, hshared, howed, add_zero]

theorem PaysReward.poolBalance (h : PaysReward config t v w s s') {house : HouseAccount}
    {draw : PreparedDraw} {outcome : DrawOutcome} {before : Int}
    (hstage : s.state.stage = .updateHouse draw outcome .drawReward before)
    (hhouse : s.writes .house = some house) :
    poolBalance (s'.view w.committed) = before - outcome.rewardAmount := by
  obtain ⟨s₀, action, hs₀, hexec, hnext⟩ := statement_cases h.step
  obtain rfl := Slot.running.inj (hs₀.symm.trans h.running)
  obtain rfl := Slot.running.inj (hnext.symm.trans h.paid)
  have hview : (s₀.view v.committed).rows .house = some house := by simp [Session.view, hhouse]
  have hdoes := Execution.exec_does hexec
  rw [hstage] at hdoes
  cases hdoes with
  | throws =>
      obtain ⟨⟨request, index, stage⟩, writes, inserts⟩ := s₀
      obtain rfl : stage = .updateHouse draw outcome .drawReward before := hstage
      simp [drawEngine, Execution.exec, Execution.applyPrizePoolDelta, hview, Execution.write]
        at hexec
  | houseGone _ _ _ _ hmissing =>
      rw [hview] at hmissing
      cases hmissing
  | houseUpdated _ _ _ _ hhouse' =>
      simp [Draw.poolBalance, Session.view, Session.after, PoolChange.amount, sub_eq_add_neg]

end Drift

/-! ## Two draws at once -/

/-- The payment that session `t` makes in its next statement, if it makes one. -/
def payment (config : DrawConfig) (t : Nat) (v : DrawSystem) :
    Option (DrawSystem × Session Row Entry Execution × Session Row Entry Execution) :=
  match v.slots t, machine (drawEngine config) v (.statement t) with
  | .running s, .ok w =>
      match s.state.stage, w.slots t with
      | .updateHouse _ _ .drawReward _, .running s' => some (w, s, s')
      | _, _ => none
  | _, _ => none

theorem paysReward_of_payment {config : DrawConfig} {t : Nat} {v w : DrawSystem}
    {s s' : Session Row Entry Execution} (h : payment config t v = some (w, s, s')) :
    PaysReward config t v w s s' := by
  unfold payment at h
  split at h
  case h_1 s₀ w₀ hs hstep =>
    split at h
    case h_1 draw outcome before s₁ hstage hs' =>
      obtain ⟨rfl, rfl, rfl⟩ : w₀ = w ∧ s₀ = s ∧ s₁ = s' := by simpa using h
      exact ⟨hs, ⟨draw, outcome, before, hstage⟩, hstep, hs'⟩
    case h_2 => cases h
  case h_2 => cases h

/-- No winning draw brings the pool from the reserve or above to below the reserve. -/
def KeepsReserve (config : DrawConfig) (db : Tables) : Prop :=
  ∀ events v w t s s', Run (Steps (drawEngine config)) (System.idle db) events v →
    PaysReward config t v w s s' → config.minReserve ≤ poolBalance (s.view v.committed) →
    config.minReserve ≤ poolBalance (s'.view w.committed)

def reserveConfig : DrawConfig where
  drawCost := 100
  minDrawCost := 0
  maxDrawCost := 0
  minReserve := 10000
  maxPayoutRatio := 0
  houseBankroll := 0
  cooldownSeconds := 0
  maxTotalPerHour := 0
  maxBigPerHour := 0
  maxBigPerDay := 0

def twoOfOnePrize : Tables where
  rows
    | .house => some { houseBankroll := 0, prizePoolBalance := 20000 }
    | .user _ => some
        { withdrawableBalance := 1000, wageredAmount := 0, userPoolBalance := 0, pityStreak := 0 }
    | .prize _ => some
        { stock := 2, rewardAmount := 6000, isActive := true, deletedAt := none,
          poolThreshold := 0, userPoolThreshold := 0, payoutBudget := 0, payoutSpent := 0,
          payoutPeriodDays := 1, payoutPeriodStartedAt := 0 }
  log := []

def pickOf (userId : Nat) : DrawRequest where
  userId := userId
  plays := [{ selection := some 1, poolNoise := none, maxReward := 10000, now := 0,
              startOfDay := 0 }]

/-- Two users read the pool; one wins and commits, and the other is paid on its snapshot. -/
def bothWin : List (Label Nat DrawRequest) :=
  .begin 0 (pickOf 0) :: .begin 1 (pickOf 1) ::
    (List.replicate 4 (.statement 0) ++ List.replicate 4 (.statement 1) ++
      List.replicate 15 (.statement 0) ++ List.replicate 10 (.statement 1))

theorem bothWin_run : ∃ events v w s s',
    Run (Steps (drawEngine reserveConfig)) (System.idle twoOfOnePrize) events v ∧
      PaysReward reserveConfig 1 v w s s' ∧ poolBalance (s.view v.committed) = 14200 ∧
      poolBalance (s'.view w.committed) = 8200 := by
  obtain ⟨events, v, hrun, hcheck⟩ := Run.exists_of_check (machine (drawEngine reserveConfig))
    (System.idle twoOfOnePrize) bothWin
    (fun _ v => ((payment reserveConfig 1 v).map fun p =>
      (poolBalance (p.2.1.view v.committed), poolBalance (p.2.2.view p.1.committed))) =
        some (14200, 8200)) (by decide +kernel)
  obtain ⟨⟨w, s, s'⟩, hpayment, hpools⟩ := Option.map_eq_some_iff.mp (of_decide_eq_true hcheck)
  obtain ⟨hbefore, hafter⟩ := Prod.mk.inj hpools
  exact ⟨events, v, w, s, s', hrun, paysReward_of_payment hpayment, hbefore, hafter⟩

end RewardSystem.Draw
