import RewardSystem.Economy.Replay
import RewardSystem.Gamification.Grants
import RewardSystem.Lib.Keyed

/-!
# The marketing budget against the rewards

The budget is consumed before the credit is tried, and a credit whose key is already in the ledger
pays nothing.
-/

namespace RewardSystem.Gamification

open Transition Economy

def AlreadyPaid (store : GamificationStore) (grant : RewardGrant) : Prop :=
  store.economy.HasKey grant.userId .bLuck grant.idempotencyKey

instance (store : GamificationStore) (grant : RewardGrant) : Decidable (AlreadyPaid store grant) :=
  inferInstanceAs (Decidable (store.economy.HasKey ..))

def creditedAmounts (store : GamificationStore) : List (Nat × Int) :=
  store.economy.entries.map fun entry => (entry.userId, entry.amount)

/-- What is left of the budget when it is asked for an amount that it does not refuse. -/
def budgetAfter (store : GamificationStore) (amount : Int) : Int :=
  if store.marketingBudget ≤ 0 then store.marketingBudget else store.marketingBudget - amount

/-- The budget has less than the amount. -/
def Refuses (store : GamificationStore) (amount : Int) : Prop :=
  0 < store.marketingBudget ∧ store.marketingBudget < amount

/-- What paying a reward does. -/
inductive Granted (store : GamificationStore) (grant : RewardGrant) (next : GamificationStore) :
    Prop
  | refused (hrefuses : Refuses store grant.amount) (hnext : next = store)
  | repeated (hallowed : ¬Refuses store grant.amount) (hpaid : AlreadyPaid store grant)
      (hnext : next = { store with marketingBudget := budgetAfter store grant.amount })
  | credited (hallowed : ¬Refuses store grant.amount) (hfresh : ¬AlreadyPaid store grant)
      (hpaid : AlreadyPaid next grant) (hkeys : ∀ other, AlreadyPaid store other →
        AlreadyPaid next other)
      (hbudget : next.marketingBudget = budgetAfter store grant.amount)
      (hrows : next.rewardRows = store.rewardRows ++ [grant.row])
      (hledger : creditedAmounts next = creditedAmounts store ++ [(grant.userId, grant.amount)])

section Grants

variable {store next : GamificationStore} {grant : RewardGrant} {allowed : Bool}

theorem consumeMarketingBudget_refuses (h : Refuses store grant.amount) :
    store.consumeMarketingBudget grant.amount = (false, store) := by
  unfold GamificationStore.consumeMarketingBudget
  rw [if_neg (not_le.mpr h.1), if_pos h.2]

theorem consumeMarketingBudget_allows (h : ¬Refuses store grant.amount) :
    store.consumeMarketingBudget grant.amount =
      (true, { store with marketingBudget := budgetAfter store grant.amount }) := by
  unfold GamificationStore.consumeMarketingBudget budgetAfter
  by_cases hzero : store.marketingBudget ≤ 0
  · rw [if_pos hzero, if_pos hzero]
  · rw [if_neg hzero, if_neg hzero, if_neg fun hless => h ⟨not_le.mp hzero, hless⟩]

theorem toDecimalPlaces_cents (amount : Int) :
    toDecimalPlaces (.finite ((amount : ℚ) / 100)) = .finite amount := by
  have hcents : (100 : ℚ) * (amount / 100) = amount := by
    rw [mul_div_assoc']
    exact mul_div_cancel_left₀ _ (by norm_num)
  rw [toDecimalPlaces, toCents, hcents, Rounding.roundHalfUp_intCast]

theorem creditReward_cases (h : store.creditReward grant = .ok next) :
    next.marketingBudget = store.marketingBudget ∧
      (AlreadyPaid store grant ∧ next = store ∨
        ¬AlreadyPaid store grant ∧ AlreadyPaid next grant ∧
          (∀ other, AlreadyPaid store other → AlreadyPaid next other) ∧
          next.rewardRows = store.rewardRows ++ [grant.row] ∧
          creditedAmounts next = creditedAmounts store ++ [(grant.userId, grant.amount)]) := by
  obtain ⟨⟨economy, result⟩, hcredit, h⟩ := ApiError.bind_eq_ok.mp h
  obtain rfl := Except.ok.inj h
  refine ⟨rfl, ?_⟩
  unfold creditAsset applyLedgerMutation at hcredit
  split at hcredit
  · rename_i existing hfind
    obtain ⟨rfl, rfl⟩ := Prod.mk.inj (Except.ok.inj hcredit)
    exact .inl ⟨hasKey_of_find hfind, rfl⟩
  · obtain ⟨amount, hamount, hcredit⟩ := ApiError.bind_eq_ok.mp hcredit
    obtain ⟨update, hupdate, hcredit⟩ := ApiError.bind_eq_ok.mp hcredit
    obtain ⟨updated, hrecord, hcredit⟩ := ApiError.bind_eq_ok.mp hcredit
    obtain ⟨rfl, rfl⟩ := Prod.mk.inj (Except.ok.inj hcredit)
    refine .inr ⟨not_hasKey_of_record hrecord, hasKey_of_record hrecord, ?_, rfl, ?_⟩
    · intro other hother
      exact hasKey_of_grows (record_grows hrecord) hother
    · have hcents := (normalizePositiveAmount_eq_ok hamount).1
      rw [RewardGrant.payload, toDecimalPlaces_cents] at hcents
      obtain rfl := Decimal.finite.inj hcents
      obtain rfl := Except.ok.inj hupdate
      unfold creditedAmounts
      rw [(EconomyStore.record_eq_ok hrecord).2]
      simp [EconomyStore.recordedEntry, RewardGrant.payload]

theorem grantReward_cases (h : store.grantReward grant = .ok (allowed, next)) :
    Granted store grant next := by
  unfold GamificationStore.grantReward at h
  by_cases hrefuses : Refuses store grant.amount
  · rw [consumeMarketingBudget_refuses hrefuses] at h
    obtain ⟨_, rfl⟩ := Prod.mk.inj (Except.ok.inj h)
    exact .refused hrefuses rfl
  · rw [consumeMarketingBudget_allows hrefuses] at h
    obtain ⟨credited, hcredit, hresult⟩ := ApiError.map_eq_ok.mp h
    obtain ⟨_, rfl⟩ := Prod.mk.inj hresult
    obtain ⟨hbudget, ⟨hpaid, rfl⟩ | ⟨hfresh, hpaid, hkeys, hrows, hledger⟩⟩ :=
      creditReward_cases hcredit
    · exact .repeated hrefuses hpaid rfl
    · exact .credited hrefuses hfresh hpaid hkeys hbudget hrows hledger

end Grants

/-! ## Once in a period -/

def MissionParams.cadence : MissionParams → RewardMissionCadence
  | .dailyCheckIn => .daily
  | .metricThreshold params => params.cadence

def missionOf (catalog : MissionCatalog) (userId : Nat) (missionId : Option String) :
    Option RewardMissionDefinition :=
  missionId.bind fun id =>
    Keyed.lookup RewardMissionDefinition.id id (resolveMissionDefinitionsForUser catalog userId)

def SamePeriod (catalog : MissionCatalog) (row row' : RewardRow) : Prop :=
  row.userId = row'.userId ∧ row.missionId = row'.missionId ∧
    (((missionOf catalog row.userId row.missionId).map fun mission => mission.params.cadence) =
        some .daily →
      isSameDay row.createdAt row'.createdAt = true)

instance (catalog : MissionCatalog) (row row' : RewardRow) :
    Decidable (SamePeriod catalog row row') :=
  inferInstanceAs (Decidable (_ ∧ _ ∧ (_ → _)))

def missionKey (userId : Nat) (mission : RewardMissionDefinition) (now : Int) : String :=
  match mission.params with
  | .dailyCheckIn => buildDailyCheckInIdempotencyKey userId mission.id (startOfDay now)
  | .metricThreshold params =>
      buildRewardGrantIdempotencyKey userId mission.id params.cadence
        (if params.cadence = .daily then some (nextResetAt now) else none)
        (if params.awardMode = some .autoGrant then .auto else .claim)

def IsMissionGrant (catalog : MissionCatalog) (grant : RewardGrant) : Prop :=
  ∃ mission, missionOf catalog grant.userId (some grant.missionId) = some mission ∧
    grant.idempotencyKey = missionKey grant.userId mission grant.createdAt

/-- The rewards paid since `start`. -/
def rewardsSince (start store : GamificationStore) : List RewardRow :=
  store.rewardRows.drop start.rewardRows.length

def totalPaid (rows : List RewardRow) : Int :=
  (rows.map RewardRow.amount).sum

/-- The rewards paid since `start` are in the ledger, each under the key of its period. -/
structure Booked (catalog : MissionCatalog) (start store : GamificationStore) : Prop where
  rows : start.rewardRows <+: store.rewardRows
  ledger : creditedAmounts store = creditedAmounts start ++
    (rewardsSince start store).map fun row => (row.userId, row.amount)
  once : (rewardsSince start store).Pairwise fun row row' => ¬SamePeriod catalog row row'
  keys : ∀ row ∈ rewardsSince start store, ∃ mission,
    missionOf catalog row.userId row.missionId = some mission ∧
      store.economy.HasKey row.userId .bLuck (missionKey row.userId mission row.createdAt)

section Periods

variable {catalog : MissionCatalog} {start store next : GamificationStore} {grant : RewardGrant}
  {row row' : RewardRow}

theorem missionKey_of_samePeriod {mission : RewardMissionDefinition}
    (h : SamePeriod catalog row row')
    (hmission : missionOf catalog row.userId row.missionId = some mission) :
    missionOf catalog row'.userId row'.missionId = some mission ∧
      missionKey row.userId mission row.createdAt =
        missionKey row'.userId mission row'.createdAt := by
  obtain ⟨huser, hid, hday⟩ := h
  rw [hmission] at hday
  refine ⟨by rw [← huser, ← hid]; exact hmission, ?_⟩
  rw [← huser]
  have hsame : mission.params.cadence = .daily →
      startOfDay row.createdAt = startOfDay row'.createdAt := by
    intro hdaily
    simpa [isSameDay] using hday (by simp [hdaily])
  unfold missionKey
  cases hparams : mission.params with
  | dailyCheckIn =>
      dsimp only
      rw [hsame (by rw [hparams]; rfl)]
  | metricThreshold params =>
      dsimp only
      by_cases hdaily : params.cadence = .daily
      · have hstart := hsame (by rw [hparams]; exact hdaily)
        simp only [hdaily, if_true, nextResetAt, hstart]
      · simp only [hdaily, if_false]

theorem rewardsSince_append (hrows : start.rewardRows <+: store.rewardRows)
    (hnext : next.rewardRows = store.rewardRows ++ [row]) :
    start.rewardRows <+: next.rewardRows ∧
      rewardsSince start next = rewardsSince start store ++ [row] := by
  refine ⟨hnext ▸ hrows.trans (List.prefix_append _ _), ?_⟩
  unfold rewardsSince
  rw [hnext, List.drop_append_of_le_length hrows.length_le]

/-- **A reward is credited at most once in a period.** -/
theorem Booked.granted (h : Booked catalog start store) (hmission : IsMissionGrant catalog grant)
    (hgranted : Granted store grant next) : Booked catalog start next := by
  cases hgranted with
  | refused _ hnext => rwa [hnext]
  | repeated _ _ hnext =>
      rw [hnext]
      exact ⟨h.rows, h.ledger, h.once, h.keys⟩
  | credited _ hfresh hpaid hkeys _ hrows hledger =>
      obtain ⟨mission, hlookup, hkey⟩ := hmission
      obtain ⟨hbefore, hsince⟩ := rewardsSince_append h.rows hrows
      refine ⟨hbefore, ?_, ?_, ?_⟩
      · rw [hledger, h.ledger, hsince, List.map_append, List.append_assoc]
        rfl
      · rw [hsince, List.pairwise_append]
        refine ⟨h.once, List.pairwise_singleton .., ?_⟩
        intro row hrow row' hrow' hsame
        obtain rfl := List.mem_singleton.mp hrow'
        obtain ⟨mission', hlookup', hhas⟩ := h.keys row hrow
        obtain ⟨hlookup'', hkey'⟩ := missionKey_of_samePeriod hsame hlookup'
        obtain rfl := Option.some.inj (hlookup.symm.trans hlookup'')
        apply hfresh
        rw [AlreadyPaid, hkey]
        rw [hkey', hsame.1] at hhas
        exact hhas
      · intro row hrow
        rw [hsince] at hrow
        rcases List.mem_append.mp hrow with hrow | hrow
        · obtain ⟨mission', hlookup', hhas⟩ := h.keys row hrow
          exact ⟨mission', hlookup', hkeys ⟨row.userId, "", .dailyBonus, 0, _, 0⟩ hhas⟩
        · obtain rfl := List.mem_singleton.mp hrow
          exact ⟨mission, hlookup, hkey ▸ hpaid⟩

end Periods

/-! ## The grants of an operation -/

def GrantOperation.grants (catalog : MissionCatalog) (store : GamificationStore) :
    GrantOperation → List RewardGrant
  | .autoGrant userId activity seen now =>
      match getRewardCenter catalog activity store.ledgerEntries (store.rewardRows.take seen)
          userId now with
      | .error _ => []
      | .ok center =>
          (center.filter isReadyAutoRewardMission).map fun mission =>
            missionGrant userId mission .auto now
  | .claim userId activity missionId now =>
      match getRewardCenter catalog activity store.ledgerEntries store.rewardRows userId now with
      | .error _ => []
      | .ok center =>
          ((center.find? fun entry => entry.id = missionId).toList.filter RewardMission.claimable).map
            fun mission => missionGrant userId mission .claim now
  | .login userId now =>
      match dailyMission catalog with
      | none => []
      | some mission =>
          if claimedOnLogin store userId (startOfDay now) then []
          else [dailyCheckInGrant userId mission now]

section Operations

variable {catalog : MissionCatalog} {store next : GamificationStore} {userId : Nat} {now : Int}

theorem grantMissions_cons {grant : RewardGrant} {rest : List RewardGrant}
    (h : grantMissions store (grant :: rest) = .ok next) :
    ∃ allowed middle, store.grantReward grant = .ok (allowed, middle) ∧
      grantMissions middle rest = .ok next := by
  obtain ⟨⟨allowed, middle⟩, hgrant, hrest⟩ := ApiError.bind_eq_ok.mp h
  exact ⟨allowed, middle, hgrant, hrest⟩

theorem grantMissions_singleton {grant : RewardGrant} {allowed : Bool}
    (h : store.grantReward grant = .ok (allowed, next)) :
    grantMissions store [grant] = .ok next := by
  rw [grantMissions, h]
  rfl

theorem grantMissions_of_step {op : GrantOperation} (h : grantStep catalog store op = .ok next) :
    grantMissions store (op.grants catalog store) = .ok next := by
  cases op with
  | autoGrant userId activity seen now =>
      obtain ⟨center, hcenter, h⟩ := ApiError.bind_eq_ok.mp h
      rw [GrantOperation.grants, hcenter]
      exact h
  | claim userId activity missionId now =>
      obtain ⟨center, hcenter, h⟩ := ApiError.bind_eq_ok.mp h
      rw [GrantOperation.grants, hcenter]
      dsimp only at h ⊢
      cases hfind : center.find? fun entry => entry.id = missionId with
      | none =>
          rw [hfind] at h
          cases h
      | some mission =>
          rw [hfind] at h
          obtain ⟨_, -, h⟩ := ApiError.bind_eq_ok.mp h
          obtain ⟨_, -, h⟩ := ApiError.bind_eq_ok.mp h
          obtain ⟨_, -, h⟩ := ApiError.bind_eq_ok.mp h
          obtain ⟨_, hclaimable, h⟩ := ApiError.bind_eq_ok.mp h
          obtain ⟨⟨allowed, granted⟩, hgrant, h⟩ := ApiError.bind_eq_ok.mp h
          obtain ⟨_, -, h⟩ := ApiError.bind_eq_ok.mp h
          obtain rfl := Except.ok.inj h
          have hready : mission.claimable = true := by
            simpa using (ApiError.throwIf_eq_ok _ _ _).mp hclaimable
          simp only [Option.toList_some, List.filter_singleton, hready, cond_true, List.map_cons,
            List.map_nil]
          exact grantMissions_singleton hgrant
  | login userId now =>
      change grantDailyCheckInRewardOnLogin catalog store userId now = .ok next at h
      unfold grantDailyCheckInRewardOnLogin at h
      unfold GrantOperation.grants
      cases hmission : dailyMission catalog with
      | none =>
          rw [hmission] at h
          exact h
      | some mission =>
          rw [hmission] at h
          dsimp only at h ⊢
          by_cases hclaimed : claimedOnLogin store userId (startOfDay now) = true
          · rw [if_pos hclaimed] at h ⊢
            exact h
          · rw [if_neg hclaimed] at h ⊢
            obtain ⟨⟨allowed, granted⟩, hgrant, rfl⟩ := ApiError.map_eq_ok.mp h
            exact grantMissions_singleton hgrant

end Operations

section Keys

variable {catalog : MissionCatalog} {store : GamificationStore} {userId : Nat}
  {definition : RewardMissionDefinition} {snapshot : RewardCenterSnapshot} {now : Int}

theorem resolved_ids :
    (resolveMissionDefinitionsForUser catalog userId).map RewardMissionDefinition.id =
      catalog.missions.map RewardMissionDefinition.id := by
  unfold resolveMissionDefinitionsForUser
  rw [List.map_map]
  apply List.map_congr_left
  intro mission _
  simp only [Function.comp_apply]
  split <;> rfl

theorem missionOf_of_mem (h : definition ∈ resolveMissionDefinitionsForUser catalog userId) :
    missionOf catalog userId (some definition.id) = some definition := by
  have hkeys : Keyed.HasKeys RewardMissionDefinition.id
      (resolveMissionDefinitionsForUser catalog userId) := by
    unfold Keyed.HasKeys
    rw [resolved_ids]
    exact catalog.ids
  exact Keyed.lookup_of_mem hkeys h

theorem missionOf_dailyCheckIn (hmem : definition ∈ catalog.missions)
    (hparams : definition.params = .dailyCheckIn) :
    missionOf catalog userId (some definition.id) = some definition := by
  apply missionOf_of_mem
  unfold resolveMissionDefinitionsForUser
  refine List.mem_map.mpr ⟨definition, hmem, ?_⟩
  rw [hparams]

theorem evaluateMission_metric {params : MetricThresholdParams}
    (hparams : definition.params = .metricThreshold params) :
    (evaluateMission definition snapshot now).cadence = params.cadence ∧
      (evaluateMission definition snapshot now).autoAwarded =
        decide (params.awardMode = some .autoGrant) ∧
      (evaluateMission definition snapshot now).resetsAt =
        if params.cadence = .daily then some (nextResetAt now) else none := by
  unfold evaluateMission
  rw [hparams]
  exact ⟨rfl, rfl, rfl⟩

theorem isMissionGrant_of_evaluated {params : MetricThresholdParams} {mode : GrantMode}
    (hmem : definition ∈ resolveMissionDefinitionsForUser catalog userId)
    (hparams : definition.params = .metricThreshold params)
    (hmode : mode = if params.awardMode = some .autoGrant then .auto else .claim) :
    IsMissionGrant catalog
      (missionGrant userId (evaluateMission definition snapshot now) mode now) := by
  obtain ⟨hcadence, -, hresets⟩ := @evaluateMission_metric definition snapshot now params hparams
  refine ⟨definition, ?_, ?_⟩
  · rw [missionGrant, evaluateMission_id]
    exact missionOf_of_mem hmem
  · unfold missionGrant missionKey
    rw [hparams, evaluateMission_id, hcadence, hresets, hmode]

theorem isMissionGrant_of_ready
    (hmem : definition ∈ resolveMissionDefinitionsForUser catalog userId)
    (hready : isReadyAutoRewardMission (evaluateMission definition snapshot now) = true) :
    IsMissionGrant catalog
      (missionGrant userId (evaluateMission definition snapshot now) .auto now) := by
  simp only [isReadyAutoRewardMission, Bool.and_eq_true, decide_eq_true_eq] at hready
  obtain ⟨params, hparams, -⟩ := metric_of_ready hready.2
  apply isMissionGrant_of_evaluated hmem hparams
  have hauto := (evaluateMission_metric hparams).2.1.symm.trans hready.1
  rw [if_pos (of_decide_eq_true hauto)]

theorem isMissionGrant_of_claimable
    (hmem : definition ∈ resolveMissionDefinitionsForUser catalog userId)
    (hclaimable : (evaluateMission definition snapshot now).claimable = true) :
    IsMissionGrant catalog
      (missionGrant userId (evaluateMission definition snapshot now) .claim now) := by
  obtain ⟨params, hparams, -⟩ := metric_of_claimable hclaimable
  apply isMissionGrant_of_evaluated hmem hparams
  have hmanual : params.awardMode ≠ some .autoGrant := by
    unfold evaluateMission at hclaimable
    rw [hparams] at hclaimable
    simp only [Bool.and_eq_true, Bool.not_eq_true', decide_eq_false_iff_not] at hclaimable
    exact hclaimable.1.1.2
  rw [if_neg hmanual]

theorem exists_definition {activity : Option UserActivity} {ledgerEntries rewardRows : List RewardRow}
    {center : List RewardMission} {mission : RewardMission}
    (hcenter : getRewardCenter catalog activity ledgerEntries rewardRows userId now = .ok center)
    (hmem : mission ∈ center) :
    ∃ definition ∈ resolveMissionDefinitionsForUser catalog userId, ∃ snapshot,
      mission = evaluateMission definition snapshot now := by
  unfold getRewardCenter at hcenter
  split at hcenter
  · cases hcenter
  · obtain rfl := Except.ok.inj hcenter
    obtain ⟨definition, hdefinition, rfl⟩ := List.mem_map.mp hmem
    exact ⟨definition, hdefinition, _, rfl⟩

theorem isMissionGrant_of_mem {op : GrantOperation} {grant : RewardGrant}
    (h : grant ∈ op.grants catalog store) : IsMissionGrant catalog grant := by
  cases op with
  | autoGrant userId activity seen now =>
      unfold GrantOperation.grants at h
      dsimp only at h
      split at h
      · cases h
      · rename_i center hcenter
        obtain ⟨mission, hmission, rfl⟩ := List.mem_map.mp h
        obtain ⟨hmem, hready⟩ := List.mem_filter.mp hmission
        obtain ⟨definition, hdefinition, snapshot, rfl⟩ := exists_definition hcenter hmem
        exact isMissionGrant_of_ready hdefinition hready
  | claim userId activity missionId now =>
      unfold GrantOperation.grants at h
      dsimp only at h
      split at h
      · cases h
      · rename_i center hcenter
        obtain ⟨mission, hmission, rfl⟩ := List.mem_map.mp h
        obtain ⟨hfind, hclaimable⟩ := List.mem_filter.mp hmission
        have hmem := List.mem_of_find?_eq_some (Option.mem_toList.mp hfind)
        obtain ⟨definition, hdefinition, snapshot, rfl⟩ := exists_definition hcenter hmem
        exact isMissionGrant_of_claimable hdefinition hclaimable
  | login userId now =>
      unfold GrantOperation.grants at h
      dsimp only at h
      split at h
      · cases h
      · rename_i mission hmission
        split_ifs at h
        · cases h
        · obtain rfl := List.mem_singleton.mp h
          have hmem := List.mem_of_find?_eq_some hmission
          have hfound := List.find?_some hmission
          simp only [decide_eq_true_eq] at hfound
          refine ⟨mission, missionOf_dailyCheckIn hmem hfound.1, ?_⟩
          unfold dailyCheckInGrant missionKey
          rw [hfound.1]

end Keys

/-! ## The budget of a run -/

/-- The budget is asked only for a reward that the ledger does not have yet, and while there is a
budget; what it refuses, or would give away without a budget, may be asked for again. -/
def SpendsRightly (store : GamificationStore) (grant : RewardGrant) : Prop :=
  if AlreadyPaid store grant then
    store.marketingBudget ≤ 0 ∨ store.marketingBudget < grant.amount
  else 0 < store.marketingBudget

instance (store : GamificationStore) (grant : RewardGrant) :
    Decidable (SpendsRightly store grant) :=
  inferInstanceAs (Decidable (if AlreadyPaid store grant then
    store.marketingBudget ≤ 0 ∨ store.marketingBudget < grant.amount else
    0 < store.marketingBudget))

/-- Each of the grants finds the budget and the ledger as its predecessors left them. -/
def AllSpendRightly (store : GamificationStore) : List RewardGrant → Prop
  | [] => True
  | grant :: rest =>
      SpendsRightly store grant ∧
        match store.grantReward grant with
        | .error _ => True
        | .ok (_, next) => AllSpendRightly next rest

def decidableAllSpendRightly : (grants : List RewardGrant) → (store : GamificationStore) →
    Decidable (AllSpendRightly store grants)
  | [], _ => isTrue trivial
  | grant :: rest, store =>
      match hgrant : store.grantReward grant with
      | .error _ => decidable_of_iff (SpendsRightly store grant) (by simp [AllSpendRightly, hgrant])
      | .ok (_, next) =>
          have := decidableAllSpendRightly rest next
          decidable_of_iff (SpendsRightly store grant ∧ AllSpendRightly next rest)
            (by simp [AllSpendRightly, hgrant])

instance (store : GamificationStore) (grants : List RewardGrant) :
    Decidable (AllSpendRightly store grants) :=
  decidableAllSpendRightly grants store

structure BudgetKept (start store : GamificationStore) : Prop where
  stored : store.marketingBudget =
    start.marketingBudget - totalPaid (rewardsSince start store)
  within : totalPaid (rewardsSince start store) ≤ start.marketingBudget

section Budget

variable {catalog : MissionCatalog} {start store next : GamificationStore} {grant : RewardGrant}

theorem totalPaid_append (rows : List RewardRow) (row : RewardRow) :
    totalPaid (rows ++ [row]) = totalPaid rows + row.amount := by
  unfold totalPaid
  rw [List.map_append, List.sum_append]
  simp

theorem BudgetKept.granted (h : BudgetKept start store)
    (hrows : start.rewardRows <+: store.rewardRows) (hgranted : Granted store grant next)
    (hspends : SpendsRightly store grant) : BudgetKept start next := by
  unfold SpendsRightly at hspends
  cases hgranted with
  | refused _ hnext => rwa [hnext]
  | repeated hallowed hpaid hnext =>
      rw [if_pos hpaid] at hspends
      have hempty : store.marketingBudget ≤ 0 :=
        hspends.elim id fun hless => not_lt.mp fun hpos => hallowed ⟨hpos, hless⟩
      rw [hnext, budgetAfter, if_pos hempty]
      exact ⟨h.stored, h.within⟩
  | credited hallowed hfresh _ _ hbudget hnext _ =>
      rw [if_neg hfresh] at hspends
      have henough : grant.amount ≤ store.marketingBudget :=
        not_lt.mp fun hless => hallowed ⟨hspends, hless⟩
      rw [budgetAfter, if_neg (not_le.mpr hspends)] at hbudget
      have htotal : totalPaid (rewardsSince start next) =
          totalPaid (rewardsSince start store) + grant.amount := by
        rw [(rewardsSince_append hrows hnext).2, totalPaid_append]
        rfl
      have hstored := h.stored
      constructor <;> omega

theorem Booked.grantMissions {grants : List RewardGrant} (h : Booked catalog start store)
    (hmissions : ∀ grant ∈ grants, IsMissionGrant catalog grant)
    (hgrants : grantMissions store grants = .ok next) :
    Booked catalog start next ∧
      (BudgetKept start store → AllSpendRightly store grants → BudgetKept start next) := by
  induction grants generalizing store with
  | nil =>
      obtain rfl := Except.ok.inj hgrants
      exact ⟨h, fun hkept _ => hkept⟩
  | cons grant rest ih =>
      obtain ⟨allowed, middle, hgrant, hrest⟩ := grantMissions_cons hgrants
      have hgranted := grantReward_cases hgrant
      have hmiddle := h.granted (hmissions grant (by simp)) hgranted
      obtain ⟨hnext, hbudget⟩ := ih hmiddle (fun other hother => hmissions other (by simp [hother]))
        hrest
      refine ⟨hnext, fun hkept hspend => ?_⟩
      obtain ⟨hfirst, hlater⟩ := hspend
      rw [hgrant] at hlater
      exact hbudget (hkept.granted h.rows hgranted hfirst) hlater

theorem Booked.step {op : GrantOperation} (h : Booked catalog start store)
    (hstep : grantStep catalog store op = .ok next) :
    Booked catalog start next ∧ (BudgetKept start store →
      AllSpendRightly store (op.grants catalog store) → BudgetKept start next) :=
  h.grantMissions (fun _ hgrant => isMissionGrant_of_mem hgrant) (grantMissions_of_step hstep)

theorem booked_start : Booked catalog start start where
  rows := List.prefix_rfl
  ledger := by simp [rewardsSince]
  once := by simp [rewardsSince]
  keys := by simp [rewardsSince]

theorem budgetKept_start (h : 0 < start.marketingBudget) : BudgetKept start start where
  stored := by simp [rewardsSince, totalPaid]
  within := by simpa [rewardsSince, totalPaid] using h.le

end Budget

def StepSpendsRightly (catalog : MissionCatalog)
    (event : Event GamificationStore GrantOperation) : Prop :=
  AllSpendRightly event.before (event.label.grants catalog event.before)

instance (catalog : MissionCatalog) : DecidablePred (StepSpendsRightly catalog) := fun _ =>
  inferInstanceAs (Decidable (AllSpendRightly ..))

section Run

variable {catalog : MissionCatalog} {start store : GamificationStore}
  {events : List (Event GamificationStore GrantOperation)}

/-- **No reward is credited twice in its period**, whatever the budget. -/
theorem booked_of_run (hrun : Run (Accepts (grantStep catalog)) start events store) :
    Booked catalog start store :=
  hrun.invariant (fun _ _ _ hbooked hstep => (hbooked.step hstep).1) booked_start

/-- **The rewards stay within the budget.** -/
theorem budget_kept (hbudget : 0 < start.marketingBudget)
    (hrun : Run (Accepts (grantStep catalog)) start events store)
    (hspend : ∀ event ∈ events, StepSpendsRightly catalog event) :
    (∀ event ∈ events, Booked catalog start event.after ∧ BudgetKept start event.after) ∧
      Booked catalog start store ∧ BudgetKept start store := by
  have hkept := Run.invariant_of_forall
    (I := fun state => Booked catalog start state ∧ BudgetKept start state)
    (C := StepSpendsRightly catalog)
    (fun u op v hu hstep hright =>
      have hnext := hu.1.step hstep
      ⟨hnext.1, hnext.2 hu.2 hright⟩)
    hrun ⟨booked_start, budgetKept_start hbudget⟩ hspend
  exact ⟨fun event hevent => (hkept.1 event hevent).2, hkept.2⟩

end Run

section Example

def checkInMission : RewardMissionDefinition :=
  { id := "daily_checkin", params := .dailyCheckIn, reward := 200, isActive := true }

def firstDrawMission : RewardMissionDefinition :=
  { id := "first_draw", reward := 500, isActive := true
    params := .metricThreshold
      { metric := .drawCountAll, target := 1, cadence := .oneTime, rewardId := none
        awardMode := some .manualClaim } }

def exampleCatalog : MissionCatalog where
  missions := [checkInMission, firstDrawMission]
  resolved _ params := params
  ids := by decide

def budgetedStore : GamificationStore :=
  { marketingBudget := 1000, economy := emptyStore, rewardRows := [], ledgerEntries := [] }

def activePlayer : UserActivity :=
  { emailVerified := true, phoneVerified := true, drawCountAll := 3, drawCountToday := 0
    depositCount := 0, depositCreditedCount := 0, qualifiedReferrals := [] }

/-- The second login of a day takes 2.00 from the budget and credits nothing. -/
theorem not_budgetKept_of_secondLogin :
    ¬∀ catalog start store events, 0 < start.marketingBudget →
      Run (Accepts (grantStep catalog)) start events store →
      store.marketingBudget = start.marketingBudget - totalPaid (rewardsSince start store) := by
  intro hclaim
  obtain ⟨events, store, hrun, hcheck⟩ := Run.exists_of_check (grantStep exampleCatalog)
    budgetedStore [.login 1 0, .login 1 1000]
    (fun _ store => decide (store.marketingBudget = 600 ∧
      totalPaid (rewardsSince budgetedStore store) = 200)) (by decide +kernel)
  obtain ⟨hstored, hpaid⟩ := of_decide_eq_true hcheck
  have hequal := hclaim _ _ store events (by decide) hrun
  rw [hstored, hpaid] at hequal
  exact absurd hequal (by decide)

theorem budget_kept_firstDraw : ∃ events store,
    Run (Accepts (grantStep exampleCatalog)) budgetedStore events store ∧
      totalPaid (rewardsSince budgetedStore store) = 700 ∧
      Booked exampleCatalog budgetedStore store ∧ BudgetKept budgetedStore store := by
  obtain ⟨events, store, hrun, hcheck⟩ := Run.exists_of_check (grantStep exampleCatalog)
    budgetedStore [.login 1 0, .claim 1 (some activePlayer) "first_draw" 5000]
    (fun events store => decide (totalPaid (rewardsSince budgetedStore store) = 700 ∧
      ∀ event ∈ events, StepSpendsRightly exampleCatalog event)) (by decide +kernel)
  obtain ⟨hpaid, hspend⟩ := of_decide_eq_true hcheck
  exact ⟨events, store, hrun, hpaid, (budget_kept (by decide) hrun hspend).2⟩

theorem booked_sample : ∃ events store,
    Run (Accepts (grantStep exampleCatalog)) budgetedStore events store ∧
      totalPaid (rewardsSince budgetedStore store) = 200 ∧
        Booked exampleCatalog budgetedStore store := by
  obtain ⟨events, store, hrun, hcheck⟩ := Run.exists_of_check (grantStep exampleCatalog)
    budgetedStore [.login 1 0, .login 1 1000]
    (fun _ store => decide (totalPaid (rewardsSince budgetedStore store) = 200)) (by decide +kernel)
  exact ⟨events, store, hrun, of_decide_eq_true hcheck, booked_of_run hrun⟩

end Example

end RewardSystem.Gamification
