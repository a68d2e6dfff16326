import RewardSystem.Draw.Engine

namespace RewardSystem.Draw

open ReadCommitted

/-- The draw with the pool as the unlocked read has found it. -/
def DebitedDraw.prepare (draw : DebitedDraw) (house : HouseAccount) : PreparedDraw :=
  { draw with
    poolBalance := house.prizePoolBalance
    effectivePoolBalance := applyPoolNoise house.prizePoolBalance draw.play.poolNoise }

/-- Where a draw goes on once its prize is picked. -/
def PreparedDraw.selected (draw : PreparedDraw) : Stage :=
  match draw.play.selection with
  | none => .ensureHouseFor draw (buildOutcome .miss) .drawCost
  | some prizeId => .lockPrize draw prizeId

/-- What the statement at a stage can do, with what it has found in the tables. -/
inductive Does (config : DrawConfig) (request : DrawRequest) (index : Nat) (db : Tables) :
    Stage → Statement → Prop
  | throws (stage : Stage) :
      Does config request index db stage (.rollback ⟨request, index, .finished⟩)
  | drawsDone (hdone : request.plays[index]? = none) :
      Does config request index db .lockUser (.commit ⟨request, index, .finished⟩)
  | userLocked {play : Play} {user : DrawUser} (hplay : request.plays[index]? = some play)
      (huser : db.rows (.user request.userId) = some user) :
      Does config request index db .lockUser
        (.write (.user request.userId) user ⟨request, index, .debitUser play user⟩)
  | userDebited (play : Play) (user row : DrawUser)
      (hbalance : resolveEffectiveDrawCost config ≤ user.withdrawableBalance) :
      Does config request index db (.debitUser play user)
        (.write (.user request.userId) row
          ⟨request, index, .ensureHouse
            { play := play, drawCost := resolveEffectiveDrawCost config,
              userPoolAfterDebit := user.userPoolBalance + resolveEffectiveDrawCost config,
              pityStreakBefore := user.pityStreak }⟩)
  | houseCreated (draw : DebitedDraw) (hmissing : db.rows .house = none) :
      Does config request index db (.ensureHouse draw)
        (.write .house emptyHouse ⟨request, index, .readPool draw⟩)
  | houseFound (draw : DebitedDraw) (hpresent : db.rows .house ≠ none) :
      Does config request index db (.ensureHouse draw) (.goto ⟨request, index, .readPool draw⟩)
  | poolRead {draw : DebitedDraw} {house : HouseAccount} (hhouse : db.rows .house = some house) :
      Does config request index db (.readPool draw)
        (.goto ⟨request, index, (draw.prepare house).selected⟩)
  | prizeMissing (draw : PreparedDraw) (prizeId : Nat) :
      Does config request index db (.lockPrize draw prizeId)
        (.goto ⟨request, index, .payoutPolicy draw prizeId none⟩)
  | prizeLocked (draw : PreparedDraw) {prizeId : Nat} {prize : Prize}
      (hprize : db.rows (.prize prizeId) = some prize) :
      Does config request index db (.lockPrize draw prizeId)
        (.write (.prize prizeId) prize ⟨request, index, .payoutPolicy draw prizeId (some prize)⟩)
  | drawRefused {draw : PreparedDraw} {prizeId : Nat} {lockedPrize : Option Prize}
      {outcome : DrawOutcome}
      (hpolicy : resolvePayoutPolicy config db.log request.userId draw prizeId lockedPrize =
        .terminal outcome) :
      Does config request index db (.payoutPolicy draw prizeId lockedPrize)
        (.goto ⟨request, index, .ensureHouseFor draw outcome .drawCost⟩)
  | drawWon {draw : PreparedDraw} {prizeId : Nat} {lockedPrize : Option Prize} {plan : PrizePlan}
      (hpolicy : resolvePayoutPolicy config db.log request.userId draw prizeId lockedPrize =
        .pays plan) :
      Does config request index db (.payoutPolicy draw prizeId lockedPrize)
        (.goto ⟨request, index, .decrementStock draw plan⟩)
  | stockGone (draw : PreparedDraw) (plan : PrizePlan) :
      Does config request index db (.decrementStock draw plan)
        (.goto ⟨request, index, .creditUserPool draw plan⟩)
  | stockTaken (draw : PreparedDraw) (plan : PrizePlan) {prize : Prize}
      (hprize : db.rows (.prize plan.prizeId) = some prize) :
      Does config request index db (.decrementStock draw plan)
        (.write (.prize plan.prizeId) (decrementedPrize plan draw.play.now prize)
          ⟨request, index, .creditUserPool draw plan⟩)
  | userPoolKept (draw : PreparedDraw) (plan : PrizePlan) :
      Does config request index db (.creditUserPool draw plan)
        (.goto ⟨request, index, .ensureHouseFor draw plan.outcome .drawCost⟩)
  | userPoolMoved (draw : PreparedDraw) (plan : PrizePlan) (row : DrawUser) :
      Does config request index db (.creditUserPool draw plan)
        (.write (.user request.userId) row
          ⟨request, index, .ensureHouseFor draw plan.outcome .drawCost⟩)
  | houseCreatedFor (draw : PreparedDraw) (outcome : DrawOutcome) (change : PoolChange)
      (hmissing : db.rows .house = none) :
      Does config request index db (.ensureHouseFor draw outcome change)
        (.write .house emptyHouse ⟨request, index, .lockHouse draw outcome change⟩)
  | houseFoundFor (draw : PreparedDraw) (outcome : DrawOutcome) (change : PoolChange)
      (hpresent : db.rows .house ≠ none) :
      Does config request index db (.ensureHouseFor draw outcome change)
        (.goto ⟨request, index, .lockHouse draw outcome change⟩)
  | houseLocked (draw : PreparedDraw) (outcome : DrawOutcome) (change : PoolChange)
      {house : HouseAccount} (hhouse : db.rows .house = some house) :
      Does config request index db (.lockHouse draw outcome change)
        (.write .house house
          ⟨request, index, .updateHouse draw outcome change house.prizePoolBalance⟩)
  | houseGone (draw : PreparedDraw) (outcome : DrawOutcome) (change : PoolChange) (before : Int)
      (hmissing : db.rows .house = none) :
      Does config request index db (.updateHouse draw outcome change before)
        (.goto ⟨request, index, .insertTransaction draw outcome change before⟩)
  | houseUpdated (draw : PreparedDraw) (outcome : DrawOutcome) (change : PoolChange)
      (before : Int) {house : HouseAccount} (hhouse : db.rows .house = some house) :
      Does config request index db (.updateHouse draw outcome change before)
        (.write .house { house with prizePoolBalance := before + change.amount draw outcome }
          ⟨request, index, .insertTransaction draw outcome change before⟩)
  | transactionInserted (draw : PreparedDraw) (outcome : DrawOutcome) (change : PoolChange)
      (before : Int) :
      Does config request index db (.insertTransaction draw outcome change before)
        (.insert (.houseTransaction (transactionOf draw outcome change before))
          ⟨request, index, afterTransaction draw outcome change⟩)
  | streakGone (draw : PreparedDraw) (outcome : DrawOutcome) :
      Does config request index db (.updateUser draw outcome)
        (.goto ⟨request, index, .insertRecord draw outcome⟩)
  | streakUpdated (draw : PreparedDraw) (outcome : DrawOutcome) (row : DrawUser) :
      Does config request index db (.updateUser draw outcome)
        (.write (.user request.userId) row ⟨request, index, .insertRecord draw outcome⟩)
  | recordInserted (draw : PreparedDraw) (outcome : DrawOutcome) :
      Does config request index db (.insertRecord draw outcome)
        (.insert (.drawRecord (drawRecordOf request.userId draw outcome))
          ⟨request, index + 1, .lockUser⟩)

namespace Execution

variable {config : DrawConfig} {x : Execution} {db : Tables} {action : Statement} {stage : Stage}

theorem goto_eq_some :
    x.goto stage = some action ↔ .goto ⟨x.request, x.index, stage⟩ = action := by
  simp [goto]

theorem throw_eq_some {error : ApiError} :
    x.throw error = some action ↔ .rollback ⟨x.request, x.index, .finished⟩ = action := by
  simp [Execution.throw]

theorem write_eq_some {key : Key} {row : Row key} :
    x.write key row stage = some action ↔
      .write key row ⟨x.request, x.index, stage⟩ = action := by
  simp [write]

theorem resolveDraw_does (h : x.resolveDraw config db stage = some action) :
    Does config x.request x.index db stage action := by
  unfold resolveDraw at h
  split at h
  case h_1 =>
    split at h
    case h_1 hdone => exact Option.some.inj h ▸ .drawsDone hdone
    case h_2 play hplay =>
      split at h
      case h_1 => exact throw_eq_some.mp h ▸ .throws _
      case h_2 user huser => exact write_eq_some.mp h ▸ .userLocked hplay huser
  case h_2 play user =>
    dsimp only at h
    split at h
    case isTrue => exact throw_eq_some.mp h ▸ .throws _
    case isFalse hbalance =>
      exact write_eq_some.mp h ▸ .userDebited play user _ (not_lt.mp hbalance)
  case h_3 draw =>
    split at h
    case h_1 hmissing => exact write_eq_some.mp h ▸ .houseCreated draw hmissing
    case h_2 house hhouse => exact goto_eq_some.mp h ▸ .houseFound draw (by simp [hhouse])
  case h_4 draw =>
    split at h
    case h_1 => exact throw_eq_some.mp h ▸ .throws _
    case h_2 house hhouse =>
      have hread : Does config x.request x.index db (.readPool draw) _ := .poolRead hhouse
      dsimp only at h
      split at h
      all_goals
        next hselection =>
          rw [← goto_eq_some.mp h]
          simpa [DebitedDraw.prepare, PreparedDraw.selected, hselection] using hread
  case h_5 draw prizeId =>
    split at h
    case h_1 => exact goto_eq_some.mp h ▸ .prizeMissing draw prizeId
    case h_2 prize hprize =>
      split at h
      case isTrue => exact goto_eq_some.mp h ▸ .prizeMissing draw prizeId
      case isFalse => exact write_eq_some.mp h ▸ .prizeLocked draw hprize
  case h_6 draw prizeId lockedPrize =>
    split at h
    case h_1 outcome hpolicy => exact goto_eq_some.mp h ▸ .drawRefused hpolicy
    case h_2 plan hpolicy => exact goto_eq_some.mp h ▸ .drawWon hpolicy
  case h_7 draw plan =>
    split at h
    case h_1 => exact goto_eq_some.mp h ▸ .stockGone draw plan
    case h_2 prize hprize =>
      split at h
      case isTrue => exact goto_eq_some.mp h ▸ .stockGone draw plan
      case isFalse => exact write_eq_some.mp h ▸ .stockTaken draw plan hprize
  case h_8 draw plan =>
    split at h
    case isTrue => exact goto_eq_some.mp h ▸ .userPoolKept draw plan
    case isFalse =>
      split at h
      case h_1 => exact goto_eq_some.mp h ▸ .userPoolKept draw plan
      case h_2 => exact write_eq_some.mp h ▸ .userPoolMoved draw plan _
  case h_9 => cases h

theorem applyPrizePoolDelta_does (h : x.applyPrizePoolDelta db stage = some action) :
    Does config x.request x.index db stage action := by
  unfold applyPrizePoolDelta at h
  split at h
  case h_1 draw outcome change =>
    split at h
    case h_1 hmissing => exact write_eq_some.mp h ▸ .houseCreatedFor draw outcome change hmissing
    case h_2 house hhouse =>
      exact goto_eq_some.mp h ▸ .houseFoundFor draw outcome change (by simp [hhouse])
  case h_2 draw outcome change =>
    split at h
    case h_1 => exact throw_eq_some.mp h ▸ .throws _
    case h_2 house hhouse => exact write_eq_some.mp h ▸ .houseLocked draw outcome change hhouse
  case h_3 draw outcome change before =>
    split at h
    case h_1 hmissing => exact goto_eq_some.mp h ▸ .houseGone draw outcome change before hmissing
    case h_2 house hhouse =>
      exact write_eq_some.mp h ▸ .houseUpdated draw outcome change before hhouse
  case h_4 draw outcome change before =>
    exact Option.some.inj h ▸ .transactionInserted draw outcome change before
  case h_5 => cases h

theorem exec_does (h : x.exec config db = some action) :
    Does config x.request x.index db x.stage action := by
  unfold exec at h
  split at h
  case h_1 draw outcome hstage =>
    rw [hstage]
    split at h
    case h_1 => exact goto_eq_some.mp h ▸ .streakGone draw outcome
    case h_2 => exact write_eq_some.mp h ▸ .streakUpdated draw outcome _
  case h_2 draw outcome hstage =>
    rw [hstage]
    exact Option.some.inj h ▸ .recordInserted draw outcome
  case h_3 => cases h
  case h_8 => exact resolveDraw_does h
  all_goals exact applyPrizePoolDelta_does h

end Execution

end RewardSystem.Draw
