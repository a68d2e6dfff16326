import RewardSystem.Shared.Text

/-!
# Reward missions

What the reward center says about each mission of a user. Times are in milliseconds, and the day of
the server is the day in UTC.
-/

namespace RewardSystem.Gamification

inductive RewardMissionCadence where
  | oneTime
  | daily
  deriving DecidableEq, Repr

inductive RewardMissionMetric where
  | verifiedContacts
  | drawCountAll
  | drawCountToday
  | depositCount
  | depositCreditedCount
  | referralSuccessCount
  deriving DecidableEq, Repr

inductive RewardMissionAwardMode where
  | manualClaim
  | autoGrant
  deriving DecidableEq, Repr

structure MetricThresholdParams where
  metric : RewardMissionMetric
  target : Nat
  cadence : RewardMissionCadence
  rewardId : Option String
  awardMode : Option RewardMissionAwardMode
  deriving DecidableEq

inductive MissionParams where
  | dailyCheckIn
  | metricThreshold (params : MetricThresholdParams)
  deriving DecidableEq

/-- A row of `missions`; the reward is in cents. -/
structure RewardMissionDefinition where
  id : String
  params : MissionParams
  reward : Int
  isActive : Bool
  deriving DecidableEq

structure MissionClaim where
  missionId : Option String
  createdAt : Int

structure QualifiedReferral where
  rewardId : String
  qualifiedAt : Int

/-- What a user has done, apart from the rewards. -/
structure UserActivity where
  emailVerified : Bool
  phoneVerified : Bool
  drawCountAll : Nat
  drawCountToday : Nat
  depositCount : Nat
  depositCreditedCount : Nat
  qualifiedReferrals : List QualifiedReferral

structure RewardCenterSnapshot where
  activity : UserActivity
  dailyClaims : List Int
  missionClaims : List MissionClaim
  missions : List RewardMissionDefinition

inductive RewardMissionStatus where
  | disabled
  | inProgress
  | ready
  | claimed
  deriving DecidableEq, Repr

structure RewardMission where
  id : String
  cadence : RewardMissionCadence
  status : RewardMissionStatus
  rewardAmount : Int
  progressCurrent : Nat
  progressTarget : Nat
  claimable : Bool
  autoAwarded : Bool
  resetsAt : Option Int
  deriving DecidableEq

def dayMs : Int := 24 * 60 * 60 * 1000

def startOfDay (value : Int) : Int :=
  value - value % dayMs

def isSameDay (left right : Int) : Bool :=
  startOfDay left = startOfDay right

/-- `addDays(startOfDay(now), 1)` -/
def nextResetAt (now : Int) : Int :=
  startOfDay now + dayMs

/-- `toISOString().slice(0, 10)` of a time from the year 0 to the year 9999. -/
def isoDate (time : Int) : String :=
  -- days are counted from the first of March of the year 0, so that a leap day ends a year
  let days := time / dayMs + 719468
  let era := days / 146097
  let dayOfEra := days % 146097
  let yearOfEra :=
    (dayOfEra - dayOfEra / 1460 + dayOfEra / 36524 - dayOfEra / 146096) / 365
  let dayOfYear := dayOfEra - (365 * yearOfEra + yearOfEra / 4 - yearOfEra / 100)
  let monthFromMarch := (5 * dayOfYear + 2) / 153
  let day := dayOfYear - (153 * monthFromMarch + 2) / 5 + 1
  let month := if monthFromMarch < 10 then monthFromMarch + 3 else monthFromMarch - 9
  let year := yearOfEra + era * 400 + (if month ≤ 2 then 1 else 0)
  padded 4 year ++ "-" ++ padded 2 month ++ "-" ++ padded 2 day
where
  padded (width : Nat) (value : Int) : String :=
    let digits := toString value.toNat
    String.ofList (List.replicate (width - digits.length) '0') ++ digits

/-- 2024-02-29 -/
example : isoDate 1709208000000 = "2024-02-29" := by decide +kernel

def findMissionClaim (missionClaims : List MissionClaim) (missionId : String) (now : Int)
    (cadence : RewardMissionCadence) : Option MissionClaim :=
  let claims := missionClaims.filter fun entry => entry.missionId = some missionId
  match cadence with
  | .daily => claims.find? fun entry => isSameDay entry.createdAt now
  | .oneTime => claims.head?

def evaluateMetricProgress (params : MetricThresholdParams) (activity : UserActivity) (now : Int) :
    Nat :=
  match params.metric with
  | .verifiedContacts => activity.emailVerified.toNat + activity.phoneVerified.toNat
  | .drawCountAll => activity.drawCountAll
  | .drawCountToday => activity.drawCountToday
  | .depositCount => activity.depositCount
  | .depositCreditedCount => activity.depositCreditedCount
  | .referralSuccessCount =>
      (activity.qualifiedReferrals.filter fun entry =>
        (params.rewardId.all fun rewardId => entry.rewardId = rewardId) &&
          (params.cadence ≠ .daily || isSameDay entry.qualifiedAt now)).length

def evaluateMission (definition : RewardMissionDefinition) (snapshot : RewardCenterSnapshot)
    (now : Int) : RewardMission :=
  let enabled : Bool := definition.isActive && decide (0 < definition.reward)
  match definition.params with
  | .dailyCheckIn =>
      let claimedToday := snapshot.dailyClaims.any fun entry => isSameDay entry now
      { id := definition.id
        cadence := .daily
        status := if !enabled then .disabled else if claimedToday then .claimed else .inProgress
        rewardAmount := definition.reward
        progressCurrent := claimedToday.toNat
        progressTarget := 1
        claimable := false
        autoAwarded := true
        resetsAt := some (nextResetAt now) }
  | .metricThreshold params =>
      let claim := findMissionClaim snapshot.missionClaims definition.id now params.cadence
      let progressCurrent := min (evaluateMetricProgress params snapshot.activity now) params.target
      let autoAwarded : Bool := params.awardMode = some .autoGrant
      { id := definition.id
        cadence := params.cadence
        status :=
          if !enabled then .disabled
          else if claim.isSome then .claimed
          else if params.target ≤ progressCurrent then .ready
          else .inProgress
        rewardAmount := definition.reward
        progressCurrent := progressCurrent
        progressTarget := params.target
        claimable :=
          enabled && !autoAwarded && claim.isNone && decide (params.target ≤ progressCurrent)
        autoAwarded := autoAwarded
        resetsAt := if params.cadence = .daily then some (nextResetAt now) else none }

/-- The missions of `evaluateRewardCenter`. -/
def evaluateRewardCenter (snapshot : RewardCenterSnapshot) (now : Int) : List RewardMission :=
  snapshot.missions.map fun definition => evaluateMission definition snapshot now

section Evaluation

variable {definition : RewardMissionDefinition} {snapshot : RewardCenterSnapshot} {now : Int}

@[simp]
theorem evaluateMission_id : (evaluateMission definition snapshot now).id = definition.id := by
  unfold evaluateMission
  split <;> rfl

theorem metric_of_ready (h : (evaluateMission definition snapshot now).status = .ready) :
    ∃ params, definition.params = .metricThreshold params ∧ 0 < definition.reward := by
  unfold evaluateMission at h
  split at h
  · dsimp only at h
    split_ifs at h
  · rename_i params hparams
    dsimp only at h
    split_ifs at h with hdisabled
    exact ⟨params, hparams, by simp at hdisabled; exact hdisabled.2⟩

theorem metric_of_claimable (h : (evaluateMission definition snapshot now).claimable = true) :
    ∃ params, definition.params = .metricThreshold params ∧ 0 < definition.reward := by
  unfold evaluateMission at h
  split at h
  · cases h
  · rename_i params hparams
    simp only [Bool.and_eq_true, decide_eq_true_eq] at h
    exact ⟨params, hparams, h.1.1.1.2⟩

end Evaluation

end RewardSystem.Gamification
