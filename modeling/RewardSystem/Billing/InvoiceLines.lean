import Mathlib.Algebra.Order.BigOperators.Group.List
import Mathlib.Tactic.FieldSimp
import RewardSystem.Billing.UsageFees

/-!
# The lines of an invoice against the fees of its run

The usage fee is one rounded sum. The invoice has a line for the base fee and one for each decision
type that comes to a cent, and only without any of these a line for the usage fee.
-/

namespace RewardSystem.Billing

open Rounding

section Totals

variable (decisionPricing : SaasBillingDecisionPricing) (usageEvents : List UsageEvent)

/-- How many decisions of a type the events bill. -/
def decidedUnits (decisionType : SaasDecisionType) : Int :=
  ((usageEvents.filter fun event => resolveUsageEventDecisionType event = some decisionType).map
    fun event => max event.units 0).sum

/-- What the events bill that are no decisions. -/
def otherAmounts : ℚ :=
  ((usageEvents.filter fun event => isBillingRewardEventType event.eventType = false).map
    UsageEvent.amount).sum

def decisionFee (decisionType : SaasDecisionType) : ℚ :=
  decisionPricing decisionType * decidedUnits usageEvents decisionType

def decisionFees : ℚ :=
  (saasDecisionTypeValues.map (decisionFee decisionPricing usageEvents)).sum

variable {decisionPricing usageEvents}

theorem decidedUnits_nonneg (decisionType : SaasDecisionType) :
    0 ≤ decidedUnits usageEvents decisionType := by
  apply List.sum_nonneg
  intro units hunits
  obtain ⟨event, _, rfl⟩ := List.mem_map.mp hunits
  exact le_max_right _ _

theorem resolve_of_reward {event : UsageEvent}
    (hreward : isBillingRewardEventType event.eventType = true) :
    ∃ decisionType, resolveUsageEventDecisionType event = some decisionType := by
  unfold resolveUsageEventDecisionType
  rw [if_neg (by simp [hreward])]
  split
  · exact ⟨_, rfl⟩
  · split
    · exact ⟨_, rfl⟩
    · split <;> exact ⟨_, rfl⟩

theorem resolve_of_other {event : UsageEvent}
    (hother : isBillingRewardEventType event.eventType = false) :
    resolveUsageEventDecisionType event = none :=
  if_pos hother

theorem decidedUnits_cons (event : UsageEvent) (decisionType : SaasDecisionType) :
    decidedUnits (event :: usageEvents) decisionType =
      (if resolveUsageEventDecisionType event = some decisionType then max event.units 0 else 0) +
        decidedUnits usageEvents decisionType := by
  unfold decidedUnits
  rw [List.filter_cons]
  split_ifs <;> simp_all

theorem otherAmounts_cons (event : UsageEvent) :
    otherAmounts (event :: usageEvents) =
      (if isBillingRewardEventType event.eventType then 0 else event.amount) +
        otherAmounts usageEvents := by
  unfold otherAmounts
  rw [List.filter_cons]
  cases isBillingRewardEventType event.eventType <;> simp

def UsageTally.entry (tally : UsageTally) (decisionType : SaasDecisionType) : DecisionTotal :=
  (tally.breakdown decisionType).getD ⟨0, 0⟩

/-- What the loop has added up for the events it has seen. -/
structure Tallied (decisionPricing : SaasBillingDecisionPricing) (usageEvents : List UsageEvent)
    (before after : UsageTally) : Prop where
  units : ∀ decisionType, (after.entry decisionType).units =
    (before.entry decisionType).units + decidedUnits usageEvents decisionType
  total : ∀ decisionType, (after.entry decisionType).totalAmount =
    (before.entry decisionType).totalAmount + decisionFee decisionPricing usageEvents decisionType
  fee : after.usageFeeAmount =
    before.usageFeeAmount + decisionFees decisionPricing usageEvents + otherAmounts usageEvents

theorem tallied_event (tally : UsageTally) (event : UsageEvent) :
    Tallied decisionPricing [event] tally (addUsageEvent decisionPricing tally event) := by
  unfold addUsageEvent
  cases hreward : isBillingRewardEventType event.eventType with
  | false =>
      have hnone := resolve_of_other hreward
      have hunits : ∀ decisionType, decidedUnits [event] decisionType = 0 := by
        intro decisionType
        simp [decidedUnits, hnone]
      constructor
      · simp [hunits, UsageTally.entry]
      · simp [hunits, decisionFee, UsageTally.entry]
      · simp [hunits, decisionFees, saasDecisionTypeValues, decisionFee, otherAmounts, hreward]
  | true =>
      obtain ⟨decided, hdecided⟩ := resolve_of_reward hreward
      have hunits : ∀ decisionType, decidedUnits [event] decisionType =
          if decided = decisionType then max event.units 0 else 0 := by
        intro decisionType
        rw [decidedUnits_cons, hdecided]
        simp [decidedUnits]
      constructor
      · intro decisionType
        rw [hunits]
        by_cases hsame : decided = decisionType
        · subst hsame
          simp [UsageTally.entry, hdecided]
        · have hother : decisionType ≠ decided := fun h => hsame h.symm
          simp [UsageTally.entry, hdecided, hsame, hother]
      · intro decisionType
        rw [decisionFee, hunits]
        by_cases hsame : decided = decisionType
        · subst hsame
          simp [UsageTally.entry, hdecided]
        · have hother : decisionType ≠ decided := fun h => hsame h.symm
          simp [UsageTally.entry, hdecided, hsame, hother]
      · have hother : otherAmounts [event] = 0 := by
          simp [otherAmounts, hreward]
        rw [hother, add_zero]
        simp only [decisionFees, saasDecisionTypeValues, List.map_cons, List.map_nil, List.sum_cons,
          List.sum_nil, decisionFee, hunits, hdecided, Option.getD_some, if_true]
        cases decided <;> simp

theorem tallied_fold (tally : UsageTally) :
    Tallied decisionPricing usageEvents tally
      (usageEvents.foldl (addUsageEvent decisionPricing) tally) := by
  induction usageEvents generalizing tally with
  | nil =>
      constructor <;>
        simp [decidedUnits, decisionFee, decisionFees, otherAmounts, saasDecisionTypeValues]
  | cons event usageEvents ih =>
      have hhead : Tallied decisionPricing [event] tally _ := tallied_event tally event
      have hrest := ih (addUsageEvent decisionPricing tally event)
      have hunits : ∀ decisionType, decidedUnits (event :: usageEvents) decisionType =
          decidedUnits [event] decisionType + decidedUnits usageEvents decisionType := by
        intro decisionType
        rw [decidedUnits_cons, decidedUnits_cons]
        simp [decidedUnits]
      have hfee : ∀ decisionType, decisionFee decisionPricing (event :: usageEvents) decisionType =
          decisionFee decisionPricing [event] decisionType +
            decisionFee decisionPricing usageEvents decisionType := by
        intro decisionType
        rw [decisionFee, hunits]
        push_cast
        exact mul_add _ _ _
      rw [List.foldl_cons]
      constructor
      · intro decisionType
        rw [hrest.units, hhead.units, hunits, add_assoc]
      · intro decisionType
        rw [hrest.total, hhead.total, hfee, add_assoc]
      · have hother : otherAmounts (event :: usageEvents) =
            otherAmounts [event] + otherAmounts usageEvents := by
          rw [otherAmounts_cons, otherAmounts_cons]
          simp [otherAmounts]
        rw [hrest.fee, hhead.fee, hother]
        simp only [decisionFees, saasDecisionTypeValues, List.map_cons, List.map_nil, List.sum_cons,
          List.sum_nil, hfee]
        ring

end Totals

section Lines

variable (decisionPricing : SaasBillingDecisionPricing) (usageEvents : List UsageEvent)

/-- The cents on the line of a decision type; a type under a cent has no line. -/
def listedCents (decisionType : SaasDecisionType) : Int :=
  max 0 (toCents (decisionFee decisionPricing usageEvents decisionType))

def HasListedType : Prop :=
  ∃ decisionType ∈ saasDecisionTypeValues,
    0 < toCents (decisionFee decisionPricing usageEvents decisionType)

instance : Decidable (HasListedType decisionPricing usageEvents) :=
  inferInstanceAs (Decidable (∃ _ ∈ _, _))

variable {decisionPricing usageEvents}

@[simp]
theorem toStripeAmount_eq (cents : Int) : toStripeAmount cents = cents := by
  have hcents : 100 * ((cents : ℚ) / 100) = cents := by ring
  rw [toStripeAmount, hcents, roundHalfUp_intCast]

theorem toCents_zero : toCents 0 = 0 := by
  have h := roundHalfUp_intCast 0
  simpa [toCents] using h

theorem sum_filter_pos (amounts : List Int) :
    (amounts.filter (0 < ·)).sum = (amounts.map (max 0)).sum := by
  induction amounts with
  | nil => rfl
  | cons amount amounts ih =>
      rw [List.filter_cons, List.map_cons, List.sum_cons, ← ih]
      by_cases hpos : 0 < amount
      · rw [if_pos (by simpa using hpos), List.sum_cons, max_eq_right hpos.le]
      · rw [if_neg (by simpa using hpos), max_eq_left (not_lt.mp hpos), zero_add]

theorem tallied_run : Tallied decisionPricing usageEvents .empty
    (usageEvents.foldl (addUsageEvent decisionPricing) .empty) :=
  tallied_fold .empty

theorem usageFeeAmount_eq :
    (summarizeUsageEventsForBilling usageEvents decisionPricing).usageFeeAmount =
      toCents (decisionFees decisionPricing usageEvents + otherAmounts usageEvents) := by
  have htallied : Tallied decisionPricing usageEvents .empty _ := tallied_run
  simp only [summarizeUsageEventsForBilling]
  rw [htallied.fee, UsageTally.empty, zero_add]

theorem item_amount {tally : UsageTally}
    (htallied : Tallied decisionPricing usageEvents .empty tally)
    (decisionType : SaasDecisionType) :
    ((breakdownItem decisionPricing tally decisionType).filter (0 < ·.totalAmount)).map
        SaasBillingDecisionBreakdown.totalAmount =
      if 0 < toCents (decisionFee decisionPricing usageEvents decisionType) then
        some (toCents (decisionFee decisionPricing usageEvents decisionType))
      else none := by
  have htotal := htallied.total decisionType
  have hunits := htallied.units decisionType
  simp only [UsageTally.entry, UsageTally.empty, Option.getD_none, zero_add] at htotal hunits
  unfold breakdownItem
  cases hitem : tally.breakdown decisionType with
  | none =>
      simp only [hitem, Option.getD_none] at htotal
      simp [← htotal, toCents_zero]
  | some item =>
      simp only [hitem, Option.getD_some] at htotal hunits
      have hnonneg : 0 ≤ decidedUnits usageEvents decisionType := decidedUnits_nonneg decisionType
      simp only [htotal]
      by_cases hfew : item.units ≤ 0
      · have hzero : decidedUnits usageEvents decisionType = 0 := by omega
        simp [hfew, decisionFee, hzero, toCents_zero]
      · by_cases hpos : 0 < toCents (decisionFee decisionPricing usageEvents decisionType)
        · simp [hfew, hpos, Option.filter_some]
        · simp [hfew, hpos, Option.filter_some]

theorem chargeable_amounts :
    ((summarizeUsageEventsForBilling usageEvents decisionPricing).decisionBreakdown.filter
        (0 < ·.totalAmount)).map SaasBillingDecisionBreakdown.totalAmount =
      (saasDecisionTypeValues.map fun decisionType =>
        toCents (decisionFee decisionPricing usageEvents decisionType)).filter (0 < ·) := by
  simp only [summarizeUsageEventsForBilling, decisionBreakdownOf]
  rw [List.filter_filterMap, List.map_filterMap, ← List.filterMap_eq_filter, List.filterMap_map]
  congr 1
  funext decisionType
  rw [item_amount tallied_run]
  simp [Option.guard]

theorem chargeable_sum :
    (((summarizeUsageEventsForBilling usageEvents decisionPricing).decisionBreakdown.filter
        (0 < ·.totalAmount)).map SaasBillingDecisionBreakdown.totalAmount).sum =
      (saasDecisionTypeValues.map (listedCents decisionPricing usageEvents)).sum := by
  rw [chargeable_amounts, sum_filter_pos, List.map_map]
  rfl

theorem hasListedType_iff :
    HasListedType decisionPricing usageEvents ↔
      0 < ((summarizeUsageEventsForBilling usageEvents decisionPricing).decisionBreakdown.filter
        (0 < ·.totalAmount)).length := by
  rw [← List.length_map SaasBillingDecisionBreakdown.totalAmount, chargeable_amounts,
    List.length_filter_pos_iff]
  simp [HasListedType]

theorem listed_sum_pos (hlisted : HasListedType decisionPricing usageEvents) :
    0 < (saasDecisionTypeValues.map (listedCents decisionPricing usageEvents)).sum := by
  obtain ⟨decisionType, hmem, hpos⟩ := hlisted
  have hone : 0 < listedCents decisionPricing usageEvents decisionType := lt_max_of_lt_right hpos
  have hle : listedCents decisionPricing usageEvents decisionType ≤
      (saasDecisionTypeValues.map (listedCents decisionPricing usageEvents)).sum := by
    apply List.single_le_sum
    · intro cents hcents
      obtain ⟨_, _, rfl⟩ := List.mem_map.mp hcents
      exact le_max_left _ _
    · exact List.mem_map_of_mem hmem
  omega

end Lines

section Total

def billedEvents (usageEvents : List UsageEvent) : List UsageEvent :=
  usageEvents.filter fun event => event.metadataBillable ≠ some false

def pricingOf (billingAccountVersion : BillingAccountVersion) : SaasBillingDecisionPricing :=
  resolveBillingDecisionPricing billingAccountVersion.decisionPricing
    billingAccountVersion.drawFee

/-- What has no line of its own when decision types have lines: a negative base fee, the events that
are no decisions, and what every line is too much or too little for its type. -/
def unlistedCents (billingAccountVersion : BillingAccountVersion) (usageEvents : List UsageEvent) :
    ℚ :=
  min 0 (toCents billingAccountVersion.baseMonthlyFee : ℚ) + 100 * otherAmounts usageEvents +
    (saasDecisionTypeValues.map fun decisionType =>
      100 * decisionFee (pricingOf billingAccountVersion) usageEvents decisionType -
        listedCents (pricingOf billingAccountVersion) usageEvents decisionType).sum

/-- Either nothing that counts is left without a line, or the usage has one line for all of it. -/
def AllListed (billingAccountVersion : BillingAccountVersion) (usageEvents : List UsageEvent) :
    Prop :=
  if HasListedType (pricingOf billingAccountVersion) usageEvents then
    -1 / 2 ≤ unlistedCents billingAccountVersion usageEvents ∧
      unlistedCents billingAccountVersion usageEvents < 1 / 2
  else
    0 ≤ toCents billingAccountVersion.baseMonthlyFee ∧
      -1 / 2 < 100 * (decisionFees (pricingOf billingAccountVersion) usageEvents +
        otherAmounts usageEvents)

variable {billingAccountVersion : BillingAccountVersion} {usageEvents : List UsageEvent}

theorem line_sum (cents : Int) :
    (if 0 < cents then [toStripeAmount cents] else []).sum = max 0 cents := by
  split_ifs with hpos
  · simp [max_eq_right hpos.le]
  · simp [max_eq_left (not_lt.mp hpos)]

theorem lines_sum (run : RunFees) :
    (invoiceLineItems run).sum = max 0 run.baseFeeAmount +
      if 0 < (run.decisionBreakdown.filter fun item => 0 < item.totalAmount).length then
        ((run.decisionBreakdown.filter fun item => 0 < item.totalAmount).map
          SaasBillingDecisionBreakdown.totalAmount).sum
      else max 0 run.usageFeeAmount := by
  unfold invoiceLineItems
  simp only
  rw [List.sum_append, line_sum]
  by_cases hlisted : 0 < (run.decisionBreakdown.filter fun item => 0 < item.totalAmount).length
  · rw [if_pos hlisted, if_pos hlisted]
    simp only [toStripeAmount_eq]
  · rw [if_neg hlisted, if_neg hlisted, line_sum]

theorem lines_sum_of_listed
    (hlisted : HasListedType (pricingOf billingAccountVersion) (billedEvents usageEvents)) :
    (invoiceLineItems (billingRunFees billingAccountVersion usageEvents)).sum =
      max 0 (toCents billingAccountVersion.baseMonthlyFee) +
        (saasDecisionTypeValues.map
          (listedCents (pricingOf billingAccountVersion) (billedEvents usageEvents))).sum := by
  rw [lines_sum, ← chargeable_sum]
  congr 1
  exact if_pos (hasListedType_iff.mp hlisted)

theorem lines_sum_of_unlisted
    (hlisted : ¬HasListedType (pricingOf billingAccountVersion) (billedEvents usageEvents)) :
    (invoiceLineItems (billingRunFees billingAccountVersion usageEvents)).sum =
      max 0 (toCents billingAccountVersion.baseMonthlyFee) +
        max 0 (billingRunFees billingAccountVersion usageEvents).usageFeeAmount := by
  rw [lines_sum]
  congr 1
  exact if_neg fun h => hlisted (hasListedType_iff.mpr h)

theorem run_usageFeeAmount :
    (billingRunFees billingAccountVersion usageEvents).usageFeeAmount =
      toCents (decisionFees (pricingOf billingAccountVersion) (billedEvents usageEvents) +
        otherAmounts (billedEvents usageEvents)) :=
  usageFeeAmount_eq

theorem unlistedCents_eq :
    unlistedCents billingAccountVersion usageEvents =
      100 * (decisionFees (pricingOf billingAccountVersion) usageEvents +
          otherAmounts usageEvents) -
        ((saasDecisionTypeValues.map
            (listedCents (pricingOf billingAccountVersion) usageEvents)).sum -
          min 0 (toCents billingAccountVersion.baseMonthlyFee) : Int) := by
  simp only [unlistedCents, decisionFees, saasDecisionTypeValues, List.map_cons, List.map_nil,
    List.sum_cons, List.sum_nil]
  push_cast
  ring

theorem max_add_min_zero (cents : Int) : max 0 cents = cents - min 0 cents := by
  have h := max_add_min 0 cents
  omega

/-- The lines of a run's invoice come to its base fee and usage fee exactly when all is listed. -/
theorem lines_eq_fees_iff (billingAccountVersion : BillingAccountVersion)
    (usageEvents : List UsageEvent) :
    (invoiceLineItems (billingRunFees billingAccountVersion usageEvents)).sum =
        (billingRunFees billingAccountVersion usageEvents).baseFeeAmount +
          (billingRunFees billingAccountVersion usageEvents).usageFeeAmount ↔
      AllListed billingAccountVersion (billedEvents usageEvents) := by
  have hbase : (billingRunFees billingAccountVersion usageEvents).baseFeeAmount =
      toCents billingAccountVersion.baseMonthlyFee := rfl
  unfold AllListed
  split_ifs with hlisted
  · have hpos := listed_sum_pos hlisted
    rw [lines_sum_of_listed hlisted, hbase, run_usageFeeAmount, max_add_min_zero, unlistedCents_eq]
    set listed : Int := (saasDecisionTypeValues.map
      (listedCents (pricingOf billingAccountVersion) (billedEvents usageEvents))).sum
    set base := toCents billingAccountVersion.baseMonthlyFee
    have htarget : 0 < listed - min 0 base := by
      have := min_le_left 0 base
      omega
    set usage : ℚ := 100 * (decisionFees (pricingOf billingAccountVersion)
      (billedEvents usageEvents) + otherAmounts (billedEvents usageEvents))
    calc base - min 0 base + listed = base + roundHalfUp usage
        ↔ roundHalfUp usage = listed - min 0 base := by omega
      _ ↔ ((listed - min 0 base : Int) : ℚ) - 1 / 2 ≤ usage ∧
            usage < (listed - min 0 base : Int) + 1 / 2 := roundHalfUp_eq_iff_of_pos htarget
      _ ↔ -1 / 2 ≤ usage - (listed - min 0 base : Int) ∧
            usage - (listed - min 0 base : Int) < 1 / 2 := by
          constructor <;> rintro ⟨hlow, hhigh⟩ <;> constructor <;> linarith
  · rw [lines_sum_of_unlisted hlisted, hbase, ← roundHalfUp_nonneg_iff]
    have husage : roundHalfUp (100 * (decisionFees (pricingOf billingAccountVersion)
        (billedEvents usageEvents) + otherAmounts (billedEvents usageEvents))) =
          (billingRunFees billingAccountVersion usageEvents).usageFeeAmount :=
      run_usageFeeAmount.symm
    rw [husage]
    omega

def halfCentVersion : BillingAccountVersion where
  baseMonthlyFee := 0
  drawFee := 0
  decisionPricing := fun _ => some (1 / 200)

def decisionEvent (decisionType : String) : UsageEvent where
  eventType := .rewardWrite
  decisionType := some decisionType
  units := 1
  amount := 1 / 200
  metadataDecisionType := none
  metadataStatus := none
  metadataBillable := none

/-- A mute and a payout of half a cent each are a fee of one cent and two lines of one cent. -/
theorem half_cents_billed_twice :
    (billingRunFees halfCentVersion
        [decisionEvent "mute", decisionEvent "payout"]).usageFeeAmount = 1 ∧
      invoiceLineItems (billingRunFees halfCentVersion
        [decisionEvent "mute", decisionEvent "payout"]) = [1, 1] ∧
      (invoiceLineItems (billingRunFees halfCentVersion
          [decisionEvent "mute", decisionEvent "payout"])).sum ≠
        (billingRunFees halfCentVersion
            [decisionEvent "mute", decisionEvent "payout"]).baseFeeAmount +
          (billingRunFees halfCentVersion
            [decisionEvent "mute", decisionEvent "payout"]).usageFeeAmount := by
  decide +kernel

end Total

end RewardSystem.Billing
