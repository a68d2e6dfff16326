import RewardSystem.PrizeEngine.Tightening

/-!
# Changes of caps

What a change of the tenant's, the project's or the request's caps does to the prizes that the
filters leave. A cap of the risk envelope may be zero; for a group or an agent a cap of zero is read
as no cap.
-/

namespace RewardSystem.PrizeEngine.Envelopes

open Gates
open Webhook (JsonValue JsonRecord toRecord field)

variable (readers : NumberReaders)

/-! ## Caps in force -/

namespace Settings

variable (settings : Settings)

/-- What the request says about a cap of the risk envelope. -/
def requestedAmount (cap : RiskCap) : Option (Decimal ℚ) :=
  (RiskCap.requested settings.riskEnvelope cap).bind (toDecimal readers)

/-- The request is not refused for its caps. -/
def Accepted : Prop :=
  ∀ cap : RiskCap, ∀ value ∈ RiskCap.requested settings.riskEnvelope cap,
    value = .null ∨ ∃ parsed, toDecimal readers value = some parsed ∧ isNegative parsed = false

/-- A cap of the risk envelope, from the tenant or from the request. A requested `NaN` leaves
neither. -/
def InForce (cap : RiskCap) (amount : ℚ) : Prop :=
  settings.requestedAmount readers cap ≠ some .nan ∧
    (RiskCap.ofTenant settings.tenant cap = some amount ∨
      settings.requestedAmount readers cap = some (.finite amount))

/-- A prize that is worth nothing passes the risk envelope. -/
def LetsThrough : Prop :=
  settings.tenant.riskEnvelopeEmergencyStop = false ∧
    ∀ cap amount, settings.InForce readers cap amount → 0 ≤ amount

/-- The limits of a scope, from the project and from the request. -/
def limits (scope : ConstraintScope) : List PrizeEngineConstraintLimit :=
  [resolveLimit readers settings.metadata scope,
    resolveScopedRiskEnvelopeLimit readers settings.riskEnvelope scope]

end Settings

/-! ## Reading positive limits -/

section Reading

variable {readers}

theorem positiveFloor_eq_some {value : ℚ} {count : Nat} :
    positiveFloor value = some count ↔ 0 < count ∧ ⌊value⌋ = count := by
  unfold positiveFloor
  split
  · rw [Option.some_inj]
    omega
  · simp only [reduceCtorEq, false_iff]
    omega

theorem positiveDecimal_eq_some {value : Decimal ℚ} {amount : ℚ} :
    positiveDecimal value = some amount ↔ value = .finite amount ∧ 0 < amount := by
  cases value with
  | finite given =>
      simp only [positiveDecimal, Decimal.finite.injEq]
      split
      · next hpositive =>
        rw [Option.some_inj]
        exact ⟨fun h => ⟨h, h ▸ hpositive⟩, And.left⟩
      · next hnot =>
        simp only [reduceCtorEq, false_iff]
        rintro ⟨rfl, hpositive⟩
        exact hnot hpositive
  | _ => simp [positiveDecimal]

theorem readPositiveInt_pos {value : Option JsonValue} {count : Nat}
    (hread : readPositiveInt readers value = some count) : 0 < count := by
  unfold readPositiveInt at hread
  split at hread
  · exact (positiveFloor_eq_some.mp hread).1
  · split at hread
    · simp at hread
    · obtain ⟨number, -, hfloor⟩ := Option.bind_eq_some_iff.mp hread
      exact (positiveFloor_eq_some.mp hfloor).1
  · simp at hread

theorem readPositiveDecimal_pos {value : Option JsonValue} {amount : ℚ}
    (hread : readPositiveDecimal readers value = some amount) : 0 < amount := by
  unfold readPositiveDecimal at hread
  split at hread
  · split at hread
    · simp at hread
    · obtain ⟨parsed, -, hpositive⟩ := Option.bind_eq_some_iff.mp hread
      exact (positiveDecimal_eq_some.mp hpositive).2
  · obtain ⟨parsed, -, hpositive⟩ := Option.bind_eq_some_iff.mp hread
    exact (positiveDecimal_eq_some.mp hpositive).2
  · simp at hread

theorem isPositive_limitOf (cap : ConstraintKind → Option JsonValue) :
    IsPositive (limitOf readers cap) where
  draws _ hmem := readPositiveInt_pos hmem
  budget _ hmem := readPositiveDecimal_pos hmem
  variance _ hmem := readPositiveDecimal_pos hmem

end Reading

/-! ## Merging limits -/

section Merging

variable {α : Type} [LinearOrder α] {left right : Option α}

theorem forall_mergeLimitValue {p : α → Prop} (hp : ∀ x y, x ≤ y → p x → p y) :
    (∀ x ∈ mergeLimitValue min left right, p x) ↔ (∀ x ∈ left, p x) ∧ ∀ x ∈ right, p x := by
  cases left with
  | none => simp [mergeLimitValue]
  | some x =>
      cases right with
      | none => simp [mergeLimitValue]
      | some y =>
          simp only [mergeLimitValue, Option.mem_some_iff, forall_eq']
          constructor
          · exact fun h => ⟨hp _ _ (min_le_left x y) h, hp _ _ (min_le_right x y) h⟩
          · rintro ⟨hx, hy⟩
            rcases min_choice x y with h | h <;> rw [h] <;> assumption

theorem exists_mergeLimitValue {p : α → Prop} (hp : ∀ x y, x ≤ y → p y → p x) :
    (∃ x ∈ mergeLimitValue min left right, p x) ↔ (∃ x ∈ left, p x) ∨ ∃ x ∈ right, p x := by
  cases left with
  | none => simp [mergeLimitValue]
  | some x =>
      cases right with
      | none => simp [mergeLimitValue]
      | some y =>
          simp only [mergeLimitValue, Option.mem_some_iff, exists_eq_left']
          constructor
          · intro h
            rcases min_choice x y with hmin | hmin <;> rw [hmin] at h
            · exact .inl h
            · exact .inr h
          · rintro (h | h)
            · exact hp _ _ (min_le_left x y) h
            · exact hp _ _ (min_le_right x y) h

end Merging

section Limits

variable {base overlay base' overlay' : PrizeEngineConstraintLimit}

theorem IsPositive.mergeLimit (hbase : IsPositive base) (hoverlay : IsPositive overlay) :
    IsPositive (mergeLimit base overlay) where
  draws := (forall_mergeLimitValue fun _ _ hle hpos => hpos.trans_le hle).mpr
    ⟨hbase.draws, hoverlay.draws⟩
  budget := (forall_mergeLimitValue fun _ _ hle hpos => hpos.trans_le hle).mpr
    ⟨hbase.budget, hoverlay.budget⟩
  variance := (forall_mergeLimitValue fun _ _ hle hpos => hpos.trans_le hle).mpr
    ⟨hbase.variance, hoverlay.variance⟩

theorem floor_le_of_le {bound x y : ℚ} (hle : x ≤ y) (hfloor : (⌊y⌋ : ℚ) ≤ bound) :
    (⌊x⌋ : ℚ) ≤ bound :=
  (by exact_mod_cast Int.floor_le_floor hle : (⌊x⌋ : ℚ) ≤ ⌊y⌋).trans hfloor

theorem limitsCover_mergeLimit :
    LimitsCover [mergeLimit base' overlay'] [mergeLimit base overlay] ↔
      LimitsCover [base', overlay'] [base, overlay] := by
  have hbudget : ∀ bound : ℚ, (∃ budget ∈ mergeLimitValue min base'.maxRewardBudget
      overlay'.maxRewardBudget, (⌊budget⌋ : ℚ) ≤ bound) ↔
        (∃ budget ∈ base'.maxRewardBudget, (⌊budget⌋ : ℚ) ≤ bound) ∨
          ∃ budget ∈ overlay'.maxRewardBudget, (⌊budget⌋ : ℚ) ≤ bound := fun bound =>
    exists_mergeLimitValue fun _ _ hle hfloor => floor_le_of_le hle hfloor
  have hvariance : ∀ bound : ℚ, (∃ variance ∈ mergeLimitValue min base'.maxPositiveVariance
      overlay'.maxPositiveVariance, variance ≤ bound) ↔
        (∃ variance ∈ base'.maxPositiveVariance, variance ≤ bound) ∨
          ∃ variance ∈ overlay'.maxPositiveVariance, variance ≤ bound := fun bound =>
    exists_mergeLimitValue fun _ _ hle hbound => hle.trans hbound
  have hdraws : ∀ bound : Nat, (∃ count ∈ mergeLimitValue min base'.maxDrawCount
      overlay'.maxDrawCount, count ≤ bound) ↔
        (∃ count ∈ base'.maxDrawCount, count ≤ bound) ∨
          ∃ count ∈ overlay'.maxDrawCount, count ≤ bound := fun bound =>
    exists_mergeLimitValue fun _ _ hle hbound => hle.trans hbound
  simp only [LimitsCover, forall_eq, exists_eq_left, List.mem_cons, List.not_mem_nil, or_false,
    forall_eq_or_imp, exists_eq_or_imp, mergeLimit, hbudget, hvariance, hdraws]
  rw [forall_mergeLimitValue, forall_mergeLimitValue, forall_mergeLimitValue]
  · constructor
    · rintro ⟨⟨hdraw, hdraw'⟩, ⟨hmoney, hmoney'⟩, hspread, hspread'⟩
      exact ⟨⟨hdraw, hmoney, fun x hx => or_or_or_comm.mp (hspread x hx)⟩,
        hdraw', hmoney', fun x hx => or_or_or_comm.mp (hspread' x hx)⟩
    · rintro ⟨⟨hdraw, hmoney, hspread⟩, hdraw', hmoney', hspread'⟩
      exact ⟨⟨hdraw, hdraw'⟩, ⟨hmoney, hmoney'⟩, fun x hx => or_or_or_comm.mp (hspread x hx),
        fun x hx => or_or_or_comm.mp (hspread' x hx)⟩
  · rintro x y hle ((h | h) | h | h)
    · exact .inl (.inl (h.imp fun _ h => ⟨h.1, h.2.trans hle⟩))
    · exact .inl (.inr (h.imp fun _ h => ⟨h.1, h.2.trans hle⟩))
    · exact .inr (.inl (h.imp fun _ h => ⟨h.1, h.2.trans hle⟩))
    · exact .inr (.inr (h.imp fun _ h => ⟨h.1, h.2.trans hle⟩))
  · rintro x y hle (h | h)
    · exact .inl (h.imp fun _ h => ⟨h.1, h.2.trans hle⟩)
    · exact .inr (h.imp fun _ h => ⟨h.1, h.2.trans hle⟩)
  · rintro x y hle (h | h)
    · exact .inl (h.imp fun _ h => ⟨h.1, h.2.trans hle⟩)
    · exact .inr (h.imp fun _ h => ⟨h.1, h.2.trans hle⟩)

end Limits

/-! ## What the caps come to -/

section Resolving

variable {readers} {settings : Settings}

theorem mergeLimitValue_none {α : Type} (resolve : α → α → α) (base : Option α) :
    mergeLimitValue resolve base none = base := by
  cases base <;> rfl

theorem mergeLimit_of_hasNoLimit {base overlay : PrizeEngineConstraintLimit}
    (hnone : hasPrizeEngineConstraintLimit overlay = false) : mergeLimit base overlay = base := by
  obtain ⟨maxDrawCount, maxRewardBudget, maxPositiveVariance⟩ := overlay
  simp only [hasPrizeEngineConstraintLimit, decide_eq_false_iff_not, not_or, not_not] at hnone
  obtain ⟨rfl, rfl, rfl⟩ := hnone
  simp [mergeLimit, mergeLimitValue_none]

theorem applyPrizeEngineRiskEnvelope_eq (config : PrizeEngineConstraintConfig)
    (riskEnvelope : Option JsonValue) :
    applyPrizeEngineRiskEnvelope readers config riskEnvelope =
      { config with
        group := mergeLimit config.group
          (resolveScopedRiskEnvelopeLimit readers riskEnvelope .group)
        agent := mergeLimit config.agent
          (resolveScopedRiskEnvelopeLimit readers riskEnvelope .agent) } := by
  unfold applyPrizeEngineRiskEnvelope
  dsimp only
  split
  · next hnone => rw [mergeLimit_of_hasNoLimit hnone.1, mergeLimit_of_hasNoLimit hnone.2]
  · rfl

def Settings.mergedLimit (readers : NumberReaders) (settings : Settings)
    (scope : ConstraintScope) : PrizeEngineConstraintLimit :=
  mergeLimit (resolveLimit readers settings.metadata scope)
    (resolveScopedRiskEnvelopeLimit readers settings.riskEnvelope scope)

theorem isPositive_mergedLimit (scope : ConstraintScope) :
    IsPositive (settings.mergedLimit readers scope) :=
  (isPositive_limitOf _).mergeLimit (isPositive_limitOf _)

theorem normalizeRequestedRiskEnvelopeCap_eq_ok {value : Option JsonValue} {fieldLabel : String}
    {requestedCap : Option (Decimal ℚ)} :
    normalizeRequestedRiskEnvelopeCap readers value fieldLabel = .ok requestedCap ↔
      requestedCap = value.bind (toDecimal readers) ∧
        ∀ given ∈ value, given = .null ∨
          ∃ parsed, toDecimal readers given = some parsed ∧ isNegative parsed = false := by
  unfold normalizeRequestedRiskEnvelopeCap
  split
  · rw [Except.ok.injEq, eq_comm]
    simp
  · rw [Except.ok.injEq, eq_comm]
    simp [toDecimal]
  · next given hnull =>
    have hgiven : given ≠ .null := fun h => hnull (h ▸ rfl)
    cases hparsed : toDecimal readers given with
    | none => simp [hgiven, hparsed]
    | some parsed =>
        cases hnegative : isNegative parsed with
        | true => simp [hgiven, hparsed, hnegative]
        | false =>
            dsimp only
            rw [if_neg (by simp [hnegative]), Except.ok.injEq, eq_comm]
            simp [hgiven, hparsed, hnegative]

theorem resolveEffectiveRiskEnvelope_eq_ok {riskEnvelope : EffectiveRiskEnvelope}
    (hresolved : resolveEffectiveRiskEnvelope readers settings.tenant settings.riskEnvelope =
      .ok riskEnvelope) :
    riskEnvelope.emergencyStop = settings.tenant.riskEnvelopeEmergencyStop ∧
      ∀ cap : RiskCap, cap.effective riskEnvelope =
        effectiveCap (RiskCap.ofTenant settings.tenant cap)
          (settings.requestedAmount readers cap) := by
  unfold resolveEffectiveRiskEnvelope at hresolved
  obtain ⟨daily, hdaily, hresolved⟩ := ApiError.bind_eq_ok.mp hresolved
  obtain ⟨single, hsingle, hresolved⟩ := ApiError.bind_eq_ok.mp hresolved
  obtain ⟨variance, hvariance, hresolved⟩ := ApiError.bind_eq_ok.mp hresolved
  obtain rfl := Except.ok.inj hresolved
  obtain ⟨rfl, -⟩ := normalizeRequestedRiskEnvelopeCap_eq_ok.mp hdaily
  obtain ⟨rfl, -⟩ := normalizeRequestedRiskEnvelopeCap_eq_ok.mp hsingle
  obtain ⟨rfl, -⟩ := normalizeRequestedRiskEnvelopeCap_eq_ok.mp hvariance
  refine ⟨rfl, fun cap => ?_⟩
  cases cap <;> rfl

theorem accepted_iff : settings.Accepted readers ↔ ∃ riskEnvelope,
    resolveEffectiveRiskEnvelope readers settings.tenant settings.riskEnvelope =
      .ok riskEnvelope := by
  constructor
  · intro haccepted
    have hok : ∀ (cap : RiskCap) (fieldLabel : String), normalizeRequestedRiskEnvelopeCap readers
        (RiskCap.requested settings.riskEnvelope cap) fieldLabel =
          .ok (settings.requestedAmount readers cap) := fun cap fieldLabel =>
      normalizeRequestedRiskEnvelopeCap_eq_ok.mpr ⟨rfl, haccepted cap⟩
    unfold resolveEffectiveRiskEnvelope
    rw [hok, hok, hok]
    exact ⟨_, rfl⟩
  · rintro ⟨riskEnvelope, hresolved⟩ cap
    unfold resolveEffectiveRiskEnvelope at hresolved
    obtain ⟨daily, hdaily, hresolved⟩ := ApiError.bind_eq_ok.mp hresolved
    obtain ⟨single, hsingle, hresolved⟩ := ApiError.bind_eq_ok.mp hresolved
    obtain ⟨variance, hvariance, -⟩ := ApiError.bind_eq_ok.mp hresolved
    cases cap with
    | dailyBudgetCap => exact (normalizeRequestedRiskEnvelopeCap_eq_ok.mp hdaily).2
    | maxSinglePayout => exact (normalizeRequestedRiskEnvelopeCap_eq_ok.mp hsingle).2
    | varianceCap => exact (normalizeRequestedRiskEnvelopeCap_eq_ok.mp hvariance).2

theorem requestedAmount_ne_negInfinity (haccepted : settings.Accepted readers) (cap : RiskCap) :
    settings.requestedAmount readers cap ≠ some .negInfinity := by
  intro hamount
  obtain ⟨value, hvalue, hparsed⟩ := Option.bind_eq_some_iff.mp hamount
  rcases haccepted cap value hvalue with rfl | ⟨parsed, hparsed', hnonneg⟩
  · simp [toDecimal] at hparsed
  · rw [hparsed] at hparsed'
    obtain rfl := Option.some.inj hparsed'
    simp [isNegative] at hnonneg

theorem exists_effectiveCap (haccepted : settings.Accepted readers) (cap : RiskCap) {p : ℚ → Prop}
    (hp : ∀ x y, x ≤ y → p y → p x) :
    (∃ amount ∈ effectiveCap (RiskCap.ofTenant settings.tenant cap)
      (settings.requestedAmount readers cap), p amount) ↔
        ∃ amount, settings.InForce readers cap amount ∧ p amount := by
  have hfinite := requestedAmount_ne_negInfinity haccepted cap
  unfold Settings.InForce
  cases RiskCap.ofTenant settings.tenant cap with
  | none =>
      cases hrequested : settings.requestedAmount readers cap with
      | none => simp [effectiveCap, resolveCap]
      | some parsed => cases parsed <;> simp [effectiveCap, resolveCap, comparedAmount]
  | some amount =>
      cases hrequested : settings.requestedAmount readers cap with
      | none => simp [effectiveCap, resolveCap, comparedAmount]
      | some parsed =>
          cases parsed with
          | finite requested =>
              have hmin := @exists_mergeLimitValue ℚ _ (some amount) (some requested) p hp
              simpa [effectiveCap, resolveCap, comparedAmount, decimalMin, mergeLimitValue,
                or_and_right, exists_or] using hmin
          | infinity => simp [effectiveCap, resolveCap, comparedAmount, decimalMin]
          | negInfinity => exact absurd hrequested hfinite
          | nan => simp [effectiveCap, resolveCap, comparedAmount, decimalMin]

theorem forall_effectiveCap (haccepted : settings.Accepted readers) (cap : RiskCap) {p : ℚ → Prop}
    (hp : ∀ x y, x ≤ y → p x → p y) :
    (∀ amount ∈ effectiveCap (RiskCap.ofTenant settings.tenant cap)
      (settings.requestedAmount readers cap), p amount) ↔
        ∀ amount, settings.InForce readers cap amount → p amount := by
  have hnot := exists_effectiveCap haccepted cap (p := fun amount => ¬p amount)
    fun x y hle hy hx => hy (hp x y hle hx)
  rw [← not_iff_not]
  push Not
  exact hnot

end Resolving

/-! ## Changes -/

/-- No filter leaves a prize after the change that it left out before, whatever a draw finds. -/
def NeverEnlarges (groupId : Option String) (after before : Settings) : Prop :=
  ∀ (situation : Situation) (left left' : FilteredPrizes),
    filterPrizes readers before groupId situation = .ok left →
      filterPrizes readers after groupId situation = .ok left' → left'.Within left

def CapsCovered (after before : Settings) : Prop :=
  before.tenant.riskEnvelopeEmergencyStop = false ∧
    ∀ cap amount, before.InForce readers cap amount →
      ∃ cap' ∈ cap.covering, ∃ amount', after.InForce readers cap' amount' ∧
        (⌊amount'⌋ : ℚ) ≤ amount

def ScopeCovered (scope : ConstraintScope) (after before : Settings) : Prop :=
  LimitsCover (after.limits readers scope) (before.limits readers scope)

section Changes

variable {readers} {after before : Settings} {riskEnvelope riskEnvelope' : EffectiveRiskEnvelope}

theorem letsThrough_iff (haccepted : after.Accepted readers)
    (hresolved : resolveEffectiveRiskEnvelope readers after.tenant after.riskEnvelope =
      .ok riskEnvelope') :
    riskEnvelope'.passes 0 0 0 = true ↔ after.LetsThrough readers := by
  obtain ⟨hstop, hcaps⟩ := resolveEffectiveRiskEnvelope_eq_ok hresolved
  rw [passes_iff, hstop]
  refine and_congr_right fun _ => forall_congr' fun cap => ?_
  have hmeasured : cap.measured 0 0 0 = 0 := by cases cap <;> simp [RiskCap.measured]
  rw [hcaps, hmeasured, Int.cast_zero]
  exact forall_effectiveCap haccepted cap fun _ _ hle hzero => hzero.trans hle

theorem envelopeCovers_iff (haccepted : after.Accepted readers)
    (haccepted' : before.Accepted readers)
    (hresolved : resolveEffectiveRiskEnvelope readers after.tenant after.riskEnvelope =
      .ok riskEnvelope')
    (hresolved' : resolveEffectiveRiskEnvelope readers before.tenant before.riskEnvelope =
      .ok riskEnvelope) :
    EnvelopeCovers riskEnvelope' riskEnvelope ↔ CapsCovered readers after before := by
  obtain ⟨-, hcaps⟩ := resolveEffectiveRiskEnvelope_eq_ok hresolved
  obtain ⟨hstop, hcaps'⟩ := resolveEffectiveRiskEnvelope_eq_ok hresolved'
  rw [EnvelopeCovers, CapsCovered, hstop]
  refine and_congr_right fun _ => forall_congr' fun cap => ?_
  have hcovered : ∀ amount : ℚ,
      (∃ cap' ∈ cap.covering, ∃ amount' ∈ cap'.effective riskEnvelope', (⌊amount'⌋ : ℚ) ≤ amount) ↔
        ∃ cap' ∈ cap.covering, ∃ amount', after.InForce readers cap' amount' ∧
          (⌊amount'⌋ : ℚ) ≤ amount := by
    intro amount
    refine exists_congr fun cap' => and_congr_right fun _ => ?_
    rw [hcaps]
    exact exists_effectiveCap haccepted cap' fun _ _ hle hfloor => floor_le_of_le hle hfloor
  rw [hcaps']
  simp only [hcovered]
  refine forall_effectiveCap haccepted' cap ?_
  rintro x y hle ⟨cap', hcap', amount', hforce, hfloor⟩
  exact ⟨cap', hcap', amount', hforce, hfloor.trans hle⟩

theorem filterPrizes_eq_ok {settings : Settings} {groupId : Option String} {situation : Situation}
    {left : FilteredPrizes} :
    filterPrizes readers settings groupId situation = .ok left ↔ ∃ riskEnvelope,
      resolveEffectiveRiskEnvelope readers settings.tenant settings.riskEnvelope =
        .ok riskEnvelope ∧
      situation.filtered (resolvePrizeEngineGroupId groupId) riskEnvelope
        { evaluationWindowSeconds :=
            (resolvePrizeEngineConstraintConfig readers settings.metadata).evaluationWindowSeconds
          group := settings.mergedLimit readers .group
          agent := settings.mergedLimit readers .agent } = left := by
  unfold filterPrizes
  rw [ApiError.bind_eq_ok]
  refine exists_congr fun riskEnvelope => and_congr_right fun _ => ?_
  rw [applyPrizeEngineRiskEnvelope_eq]
  exact ⟨Except.ok.inj, congrArg Except.ok⟩

end Changes

/-- What is asked of a change of caps, if no request is refused and the changed envelope lets
anything through. -/
def Covered (groupId : Option String) (after before : Settings) : Prop :=
  before.Accepted readers → after.Accepted readers → after.LetsThrough readers →
    CapsCovered readers after before ∧
      (resolvePrizeEngineGroupId groupId ≠ none → ScopeCovered readers .group after before) ∧
      ScopeCovered readers .agent after before

theorem Covered.neverEnlarges {readers : NumberReaders} {groupId : Option String}
    {after before : Settings} (hcovered : Covered readers groupId after before) :
    NeverEnlarges readers groupId after before := by
  intro situation left left' hleft hleft'
  obtain ⟨riskEnvelope, hresolved, rfl⟩ := filterPrizes_eq_ok.mp hleft
  obtain ⟨riskEnvelope', hresolved', rfl⟩ := filterPrizes_eq_ok.mp hleft'
  have haccepted := accepted_iff.mpr ⟨_, hresolved⟩
  have haccepted' := accepted_iff.mpr ⟨_, hresolved'⟩
  refine (within_iff_covers (isPositive_mergedLimit _) (isPositive_mergedLimit _)
    (isPositive_mergedLimit _) (isPositive_mergedLimit _)).mpr (fun hopen => ?_) situation
  obtain ⟨hcaps, hgroup, hagent⟩ := hcovered haccepted haccepted'
    ((letsThrough_iff haccepted' hresolved').mp hopen)
  exact ⟨(envelopeCovers_iff haccepted' haccepted hresolved' hresolved).mpr hcaps,
    fun hsome => limitsCover_mergeLimit.mpr (hgroup hsome), limitsCover_mergeLimit.mpr hagent⟩

/-- A change of caps leaves no more, whatever a draw finds, if and only if every cap in force before
is covered by one in force after. -/
theorem neverEnlarges_iff_covered (groupId : Option String) (after before : Settings) :
    NeverEnlarges readers groupId after before ↔ Covered readers groupId after before := by
  refine ⟨fun hnever haccepted haccepted' hthrough => ?_, Covered.neverEnlarges⟩
  obtain ⟨riskEnvelope, hresolved⟩ := accepted_iff.mp haccepted
  obtain ⟨riskEnvelope', hresolved'⟩ := accepted_iff.mp haccepted'
  have hcovers := (within_iff_covers (isPositive_mergedLimit _) (isPositive_mergedLimit _)
    (isPositive_mergedLimit _) (isPositive_mergedLimit _)).mp
    (fun situation => hnever situation _ _ (filterPrizes_eq_ok.mpr ⟨_, hresolved, rfl⟩)
      (filterPrizes_eq_ok.mpr ⟨_, hresolved', rfl⟩))
    ((letsThrough_iff haccepted' hresolved').mpr hthrough)
  exact ⟨(envelopeCovers_iff haccepted' haccepted hresolved' hresolved).mp hcovers.1,
    fun hgroup => limitsCover_mergeLimit.mp (hcovers.2.1 hgroup),
    limitsCover_mergeLimit.mp hcovers.2.2⟩

/-! ## Lowered caps -/

def numberOf : Option JsonValue → Option ℚ
  | some (.number value) => some value
  | some (.string value) => if trim value = "" then none else readers.number value
  | _ => none

def decimalOf : Option JsonValue → Option ℚ
  | some (.string value) =>
      if trim value = "" then none else (readers.decimal value).bind comparedAmount
  | some value => (toDecimal readers value).bind comparedAmount
  | none => none

def amountOf : ConstraintKind → Option JsonValue → Option ℚ
  | .draw => numberOf readers
  | .budget | .variance => decimalOf readers

/-- A cap that is set stays set and does not rise. -/
def CapLowered (after before : Option ℚ) : Prop :=
  ∀ amount ∈ before, ∃ amount' ∈ after, 0 ≤ amount' ∧ amount' ≤ amount

/-- Caps are lowered or added, and nothing else is changed. -/
structure Lowered (after before : Settings) : Prop where
  emergencyStop :
    after.tenant.riskEnvelopeEmergencyStop = before.tenant.riskEnvelopeEmergencyStop
  window :
    (resolvePrizeEngineConstraintConfig readers after.metadata).evaluationWindowSeconds =
      (resolvePrizeEngineConstraintConfig readers before.metadata).evaluationWindowSeconds
  tenant : ∀ cap, CapLowered (RiskCap.ofTenant after.tenant cap) (RiskCap.ofTenant before.tenant cap)
  requested : ∀ cap, CapLowered ((after.requestedAmount readers cap).bind comparedAmount)
    ((before.requestedAmount readers cap).bind comparedAmount)
  project : ∀ scope kind, CapLowered (amountOf readers kind (projectCap after.metadata scope kind))
    (amountOf readers kind (projectCap before.metadata scope kind))
  scopeRequested : ∀ scope kind,
    CapLowered (amountOf readers kind (requestedCap after.riskEnvelope scope kind))
      (amountOf readers kind (requestedCap before.riskEnvelope scope kind))

def ReadsAsLimit : ConstraintKind → Option JsonValue → Prop
  | .draw, value => readPositiveInt readers value ≠ none
  | _, value => readPositiveDecimal readers value ≠ none

section Lowered

variable {readers} {after before : Settings}

theorem bind_positiveDecimal_eq_some {parsed : Option (Decimal ℚ)} {amount : ℚ} :
    parsed.bind positiveDecimal = some amount ↔
      parsed.bind comparedAmount = some amount ∧ 0 < amount := by
  cases parsed with
  | none => simp
  | some given =>
      rw [Option.bind_some, Option.bind_some, positiveDecimal_eq_some]
      cases given <;> simp [comparedAmount]

theorem readPositiveDecimal_eq_some {value : Option JsonValue} {amount : ℚ} :
    readPositiveDecimal readers value = some amount ↔
      decimalOf readers value = some amount ∧ 0 < amount := by
  cases value with
  | none => simp [readPositiveDecimal, decimalOf]
  | some given =>
      cases given with
      | string text =>
          simp only [readPositiveDecimal, decimalOf]
          by_cases hblank : trim text = ""
          · simp [hblank]
          · simp only [if_neg hblank]
            exact bind_positiveDecimal_eq_some
      | null | boolean _ | number _ | array _ | object _ =>
          simp only [readPositiveDecimal, decimalOf]
          exact bind_positiveDecimal_eq_some

theorem readPositiveInt_eq_some {value : Option JsonValue} {count : Nat} :
    readPositiveInt readers value = some count ↔
      ∃ amount, numberOf readers value = some amount ∧ 0 < count ∧ ⌊amount⌋ = count := by
  unfold readPositiveInt numberOf
  split
  · simp [positiveFloor_eq_some]
  · next text =>
    by_cases hblank : trim text = ""
    · simp [hblank]
    · simp [hblank, Option.bind_eq_some_iff, positiveFloor_eq_some]
  · simp

theorem exists_readPositiveDecimal_le {value value' : Option JsonValue}
    (hlowered : CapLowered (decimalOf readers value') (decimalOf readers value))
    (hread : readPositiveDecimal readers value' ≠ none) {amount : ℚ}
    (hamount : readPositiveDecimal readers value = some amount) :
    ∃ amount', readPositiveDecimal readers value' = some amount' ∧ amount' ≤ amount := by
  obtain ⟨amount', hamount'⟩ := Option.ne_none_iff_exists'.mp hread
  obtain ⟨lower, hlower, -, hle⟩ :=
    hlowered amount (readPositiveDecimal_eq_some.mp hamount).1
  have hsame := (readPositiveDecimal_eq_some.mp hamount').1
  rw [hlower] at hsame
  exact ⟨amount', hamount', Option.some.inj hsame ▸ hle⟩

theorem exists_readPositiveInt_le {value value' : Option JsonValue}
    (hlowered : CapLowered (numberOf readers value') (numberOf readers value))
    (hread : readPositiveInt readers value' ≠ none) {count : Nat}
    (hcount : readPositiveInt readers value = some count) :
    ∃ count', readPositiveInt readers value' = some count' ∧ count' ≤ count := by
  obtain ⟨count', hcount'⟩ := Option.ne_none_iff_exists'.mp hread
  obtain ⟨amount, hamount, -, hfloor⟩ := readPositiveInt_eq_some.mp hcount
  obtain ⟨lower, hlower, -, hle⟩ := hlowered amount hamount
  obtain ⟨amount', hamount', -, hfloor'⟩ := readPositiveInt_eq_some.mp hcount'
  rw [hlower] at hamount'
  obtain rfl := Option.some.inj hamount'
  have hfloors := Int.floor_le_floor hle
  exact ⟨count', hcount', by omega⟩

theorem limitsCover_of_lowered {cap cap' : ConstraintKind → Option JsonValue}
    {rest : List PrizeEngineConstraintLimit} {limit : PrizeEngineConstraintLimit}
    (hlowered : ∀ kind, CapLowered (amountOf readers kind (cap' kind))
      (amountOf readers kind (cap kind)))
    (hread : ∀ kind, ReadsAsLimit readers kind (cap kind) → ReadsAsLimit readers kind (cap' kind))
    (hlimit : limit = limitOf readers cap) (hmem : limitOf readers cap' ∈ rest) :
    LimitsCover rest [limit] := by
  intro limit' hlimit'
  obtain rfl := (List.mem_singleton.mp hlimit').trans hlimit
  refine ⟨fun count hcount => ?_, fun budget hbudget => ?_, fun variance hvariance => ?_⟩
  · obtain ⟨count', hcount', hle⟩ := exists_readPositiveInt_le (hlowered .draw)
      (hread .draw (Option.ne_none_iff_exists'.mpr ⟨count, hcount⟩)) hcount
    exact ⟨_, hmem, count', hcount', hle⟩
  · obtain ⟨budget', hbudget', hle⟩ := exists_readPositiveDecimal_le (hlowered .budget)
      (hread .budget (Option.ne_none_iff_exists'.mpr ⟨budget, hbudget⟩)) hbudget
    exact ⟨_, hmem, budget', hbudget', (Int.floor_le budget').trans hle⟩
  · obtain ⟨variance', hvariance', hle⟩ := exists_readPositiveDecimal_le (hlowered .variance)
      (hread .variance (Option.ne_none_iff_exists'.mpr ⟨variance, hvariance⟩)) hvariance
    exact ⟨_, hmem, .inl ⟨variance', hvariance', hle⟩⟩

end Lowered

def groupBudgetSettings (dailyBudgetCap : ℚ) : Settings where
  tenant := ⟨none, none, none, false⟩
  metadata := .null
  riskEnvelope :=
    some (.object [("group", .object [("dailyBudgetCap", .number dailyBudgetCap)])])

def noTexts : NumberReaders := ⟨fun _ => none, fun _ => none⟩

theorem lowered_groupBudget : Lowered noTexts (groupBudgetSettings 0) (groupBudgetSettings 5) where
  emergencyStop := rfl
  window := rfl
  tenant cap amount hmem := by cases cap <;> cases hmem
  requested cap amount hmem := by cases cap <;> cases hmem
  project scope kind amount hmem := by cases scope <;> cases kind <;> cases hmem
  scopeRequested scope kind amount hmem := by
    cases scope with
    | agent => cases kind <;> cases hmem
    | group =>
        cases kind with
        | draw => cases hmem
        | variance => cases hmem
        | budget =>
            have hbefore : amountOf noTexts .budget
                (requestedCap (groupBudgetSettings 5).riskEnvelope .group .budget) = some 500 := by
              decide +kernel
            have hafter : amountOf noTexts .budget
                (requestedCap (groupBudgetSettings 0).riskEnvelope .group .budget) = some 0 := by
              decide +kernel
            rw [hbefore] at hmem
            obtain rfl : (500 : ℚ) = amount := by simpa using hmem
            exact ⟨0, hafter, le_rfl, by norm_num⟩

/-- Lowering the group's budget from five to zero lifts the limit: the prize worth ten may be
drawn. -/
theorem zero_cap_lifts_limit : ¬∀ (readers : NumberReaders) (groupId : Option String)
    (after before : Settings), Lowered readers after before →
      NeverEnlarges readers groupId after before := by
  intro hmonotone
  have hnever := hmonotone noTexts (some "g") _ _ lowered_groupBudget
  let situation := onePrize le_rfl le_rfl (by decide : (0 : Int) ≤ 1000)
    (fun _ => emptyConstraintStats) (fun _ => le_rfl) fun _ => le_rfl
  have hbefore : filterPrizes noTexts (groupBudgetSettings 5) (some "g") situation =
      .ok ⟨[onePrizeRow 1000], [], []⟩ := by decide +kernel
  have hafter : filterPrizes noTexts (groupBudgetSettings 0) (some "g") situation =
      .ok ⟨[onePrizeRow 1000], [onePrizeRow 1000], [onePrizeRow 1000]⟩ := by decide +kernel
  have hagent := (hnever situation _ _ hbefore hafter).agent
  simp at hagent

end RewardSystem.PrizeEngine.Envelopes
