import RewardSystem.Shared.Money

/-!
# Fees of a billing run

The usage events of a period are priced by decision type and summed up, and the run keeps the two
rounded fees with a rounded total for each decision type.
-/

namespace RewardSystem.Billing

inductive SaasDecisionType where
  | reject
  | mute
  | payout
  deriving DecidableEq, Repr

def saasDecisionTypeValues : List SaasDecisionType :=
  [.reject, .mute, .payout]

inductive PrizeEngineApiKeyScope where
  | catalogRead
  | fairnessRead
  | rewardWrite
  | drawWrite
  | ledgerRead
  deriving DecidableEq, Repr

/-- A row of `saas_usage_events` with the fields of its metadata that billing looks at. -/
structure UsageEvent where
  eventType : PrizeEngineApiKeyScope
  decisionType : Option String
  units : Int
  amount : ℚ
  metadataDecisionType : Option String
  metadataStatus : Option String
  metadataBillable : Option Bool
  deriving DecidableEq

/-- The price of one decision of each type. -/
abbrev SaasBillingDecisionPricing := SaasDecisionType → ℚ

structure BillingAccountVersion where
  baseMonthlyFee : ℚ
  drawFee : ℚ
  decisionPricing : SaasDecisionType → Option ℚ

section Pricing

/-- `toFixed(4)` -/
def toDecisionPrice (value : ℚ) : ℚ :=
  Rounding.roundHalfUp (10000 * value) / 10000

def buildLegacyDecisionPricing (drawFee : ℚ) : SaasBillingDecisionPricing :=
  fun _ => toDecisionPrice drawFee

def resolveBillingDecisionPricing (pricing : SaasDecisionType → Option ℚ) (drawFee : ℚ) :
    SaasBillingDecisionPricing :=
  fun decisionType =>
    toDecisionPrice ((pricing decisionType).getD (buildLegacyDecisionPricing drawFee decisionType))

end Pricing

section DecisionTypes

def defaultBillingDecisionType : SaasDecisionType :=
  .mute

def isBillingRewardEventType (eventType : PrizeEngineApiKeyScope) : Bool :=
  eventType = .rewardWrite ∨ eventType = .drawWrite

def parseDecisionType : String → Option SaasDecisionType
  | "reject" => some .reject
  | "mute" => some .mute
  | "payout" => some .payout
  | _ => none

def resolveUsageEventDecisionType (event : UsageEvent) : Option SaasDecisionType :=
  if isBillingRewardEventType event.eventType = false then none
  else
    match event.decisionType.bind parseDecisionType with
    | some explicitDecisionType => some explicitDecisionType
    | none =>
        match event.metadataDecisionType.bind parseDecisionType with
        | some metadataDecisionType => some metadataDecisionType
        | none =>
            match event.metadataStatus with
            | some "won" => some .payout
            | some "miss" => some .mute
            | _ => some defaultBillingDecisionType

end DecisionTypes

section Summary

structure DecisionTotal where
  units : Int
  totalAmount : ℚ
  deriving DecidableEq

/-- The variables of the loop in `summarizeUsageEventsForBilling`. -/
structure UsageTally where
  usageFeeAmount : ℚ
  drawCount : Int
  breakdown : SaasDecisionType → Option DecisionTotal

def UsageTally.empty : UsageTally where
  usageFeeAmount := 0
  drawCount := 0
  breakdown := fun _ => none

def addUsageEvent (decisionPricing : SaasBillingDecisionPricing) (tally : UsageTally)
    (event : UsageEvent) : UsageTally :=
  let units := max event.units 0
  if isBillingRewardEventType event.eventType then
    let decisionType :=
      (resolveUsageEventDecisionType event).getD defaultBillingDecisionType
    let totalAmount := decisionPricing decisionType * units
    let current := (tally.breakdown decisionType).getD ⟨0, 0⟩
    { usageFeeAmount := tally.usageFeeAmount + totalAmount
      drawCount := tally.drawCount + units
      breakdown := Function.update tally.breakdown decisionType
        (some ⟨current.units + units, current.totalAmount + totalAmount⟩) }
  else { tally with usageFeeAmount := tally.usageFeeAmount + event.amount }

/-- An entry of the stored breakdown; `totalAmount` is in cents. -/
structure SaasBillingDecisionBreakdown where
  decisionType : SaasDecisionType
  units : Int
  unitAmount : ℚ
  totalAmount : Int
  deriving DecidableEq

structure UsageSummary where
  usageFeeAmount : Int
  drawCount : Int
  decisionBreakdown : List SaasBillingDecisionBreakdown
  deriving DecidableEq

def breakdownItem (decisionPricing : SaasBillingDecisionPricing) (tally : UsageTally)
    (decisionType : SaasDecisionType) : Option SaasBillingDecisionBreakdown :=
  match tally.breakdown decisionType with
  | none => none
  | some item =>
      if item.units ≤ 0 then none
      else some
        { decisionType := decisionType
          units := item.units
          unitAmount := decisionPricing decisionType
          totalAmount := toCents item.totalAmount }

def decisionBreakdownOf (decisionPricing : SaasBillingDecisionPricing) (tally : UsageTally) :
    List SaasBillingDecisionBreakdown :=
  saasDecisionTypeValues.filterMap (breakdownItem decisionPricing tally)

def summarizeUsageEventsForBilling (usageEvents : List UsageEvent)
    (decisionPricing : SaasBillingDecisionPricing) : UsageSummary :=
  let tally := usageEvents.foldl (addUsageEvent decisionPricing) .empty
  { usageFeeAmount := toCents tally.usageFeeAmount
    drawCount := tally.drawCount
    decisionBreakdown := decisionBreakdownOf decisionPricing tally }

end Summary

/-- The fees of a row of `saas_billing_runs`, in cents. -/
structure RunFees where
  baseFeeAmount : Int
  usageFeeAmount : Int
  drawCount : Int
  decisionBreakdown : List SaasBillingDecisionBreakdown
  deriving DecidableEq

/-- What `createBillingRun` stores for the usage events of a run. -/
def billingRunFees (billingAccountVersion : BillingAccountVersion) (usageEvents : List UsageEvent) :
    RunFees :=
  let usageSummary := summarizeUsageEventsForBilling
    (usageEvents.filter fun event => event.metadataBillable ≠ some false)
    (resolveBillingDecisionPricing billingAccountVersion.decisionPricing
      billingAccountVersion.drawFee)
  { baseFeeAmount := toCents billingAccountVersion.baseMonthlyFee
    usageFeeAmount := usageSummary.usageFeeAmount
    drawCount := usageSummary.drawCount
    decisionBreakdown := usageSummary.decisionBreakdown }

section Invoice

/-- `toStripeAmount` of an amount in cents. -/
def toStripeAmount (cents : Int) : Int :=
  Rounding.roundHalfUp (100 * ((cents : ℚ) / 100))

/-- The amounts of the items that `createStripeInvoiceForBillingRun` creates. -/
def invoiceLineItems (run : RunFees) : List Int :=
  let chargeableDecisionBreakdown := run.decisionBreakdown.filter fun item => 0 < item.totalAmount
  (if 0 < run.baseFeeAmount then [toStripeAmount run.baseFeeAmount] else []) ++
    if 0 < chargeableDecisionBreakdown.length then
      chargeableDecisionBreakdown.map fun item => toStripeAmount item.totalAmount
    else if 0 < run.usageFeeAmount then [toStripeAmount run.usageFeeAmount]
    else []

end Invoice

end RewardSystem.Billing
