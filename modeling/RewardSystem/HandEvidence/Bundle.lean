import RewardSystem.HandEvidence.Content
import RewardSystem.Shared.Text

/-!
# Signed evidence bundles

The exported documents are signed in their canonical form, and then parsed by the schema of the bundle,
which gives the bundle that is delivered.
-/

namespace RewardSystem.HandEvidence

open CanonicalJson

/-! ## Schemas -/

section Schemas

abbrev JsonSchema := Schema ℚ

def textLength (value : String) : Nat :=
  (value.toList.map fun c => if c.toNat < 0x10000 then 1 else 2).sum

def anyText : JsonSchema := .text fun _ => true

def nonEmptyText : JsonSchema := .text fun value => 0 < textLength value

def shortText : JsonSchema := .text fun value => 0 < textLength value ∧ textLength value ≤ 64

def enumText (values : List String) : JsonSchema := .text fun value => value ∈ values

def isNonnegativeInteger (value : ℚ) : Bool := value.den = 1 ∧ 0 ≤ value

def isPositiveInteger (value : ℚ) : Bool := value.den = 1 ∧ 0 < value

def nonnegativeInteger : JsonSchema := .number isNonnegativeInteger

def positiveInteger : JsonSchema := .number isPositiveInteger

/-- `^(blackjack|quick_eight|holdem):[1-9]\d*$` -/
def isRoundId (value : String) : Bool :=
  ["blackjack:", "quick_eight:", "holdem:"].any fun kind =>
    kind.toList.isPrefixOf value.toList &&
      match value.toList.drop kind.toList.length with
      | first :: digits => '1' ≤ first && first ≤ '9' && digits.all Char.isDigit
      | [] => false

/-- `^[a-f0-9]{64}$` -/
def isDigest (value : String) : Bool :=
  value.toList.length = 64 && value.toList.all fun c => c.isDigit || ('a' ≤ c && c ≤ 'f')

def HandHistoryRoundIdSchema : JsonSchema := .text isRoundId

def HandHistoryRoundTypeSchema : JsonSchema := enumText ["blackjack", "quick_eight", "holdem"]

def HandHistoryEventActorSchema : JsonSchema := enumText ["player", "dealer", "system"]

def HandHistoryEventPayloadSchema : JsonSchema := .record

def HoldemCardViewSchema : JsonSchema :=
  .object [
    ("rank", .nullable (enumText
      ["2", "3", "4", "5", "6", "7", "8", "9", "10", "J", "Q", "K", "A"])),
    ("suit", .nullable (enumText ["spades", "hearts", "diamonds", "clubs"])),
    ("hidden", .boolean)]

def HoldemReplayPotSchema : JsonSchema :=
  .object [
    ("potIndex", nonnegativeInteger),
    ("kind", enumText ["main", "side"]),
    ("amount", anyText),
    ("rakeAmount", anyText),
    ("eligibleSeatIndexes", .array nonnegativeInteger),
    ("winnerSeatIndexes", .array nonnegativeInteger)]

def HoldemReplayParticipantSchema : JsonSchema :=
  .object [
    ("seatIndex", nonnegativeInteger),
    ("userId", .nullable positiveInteger),
    ("displayName", .nullable anyText),
    ("contributionAmount", .nullable anyText),
    ("payoutAmount", .nullable anyText),
    ("stackBefore", .nullable anyText),
    ("stackAfter", .nullable anyText),
    ("winner", .boolean),
    ("status", .nullable anyText),
    ("holeCards", .array HoldemCardViewSchema),
    ("bestHandLabel", .nullable anyText),
    ("lastAction", .nullable anyText)]

def HoldemReplayEventSchema : JsonSchema :=
  .object [
    ("sequence", nonnegativeInteger),
    ("type", shortText),
    ("actor", HandHistoryEventActorSchema),
    ("createdAt", anyText),
    ("stage", .nullable anyText),
    ("seatIndex", .nullable nonnegativeInteger),
    ("userId", .nullable positiveInteger),
    ("action", .nullable anyText),
    ("timeoutAction", .nullable anyText),
    ("amount", .nullable anyText),
    ("stackAmount", .nullable anyText),
    ("committedAmount", .nullable anyText),
    ("totalCommittedAmount", .nullable anyText),
    ("lastAction", .nullable anyText),
    ("turnDeadlineAt", .nullable anyText),
    ("turnTimeBankStartsAt", .nullable anyText),
    ("timeBankConsumedMs", .nullable nonnegativeInteger),
    ("timeBankRemainingMs", .nullable nonnegativeInteger),
    ("boardCards", .array HoldemCardViewSchema),
    ("newCards", .array HoldemCardViewSchema),
    ("winnerSeatIndexes", .array nonnegativeInteger),
    ("revealedSeatIndexes", .array nonnegativeInteger),
    ("pots", .array HoldemReplayPotSchema),
    ("participants", .array HoldemReplayParticipantSchema)]

def HoldemReplayDataSchema : JsonSchema :=
  .object [
    ("roundId", HandHistoryRoundIdSchema),
    ("userId", positiveInteger),
    ("startedAt", anyText),
    ("settledAt", .nullable anyText),
    ("handNumber", .nullable positiveInteger),
    ("tableId", .nullable positiveInteger),
    ("tableName", .nullable anyText),
    ("status", shortText),
    ("stage", .nullable anyText),
    ("fairnessCommitHash", .nullable anyText),
    ("totalRakeAmount", .nullable anyText),
    ("blinds", .object [
      ("smallBlind", .nullable anyText),
      ("bigBlind", .nullable anyText)]),
    ("dealerSeatIndex", .nullable nonnegativeInteger),
    ("smallBlindSeatIndex", .nullable nonnegativeInteger),
    ("bigBlindSeatIndex", .nullable nonnegativeInteger),
    ("pendingActorSeatIndex", .nullable nonnegativeInteger),
    ("winnerSeatIndexes", .array nonnegativeInteger),
    ("revealedSeatIndexes", .array nonnegativeInteger),
    ("boardCards", .array HoldemCardViewSchema),
    ("pots", .array HoldemReplayPotSchema),
    ("participants", .array HoldemReplayParticipantSchema),
    ("events", .array HoldemReplayEventSchema),
    ("viewerSeatIndex", .nullable nonnegativeInteger),
    ("stakeAmount", anyText),
    ("payoutAmount", anyText)]

def disputeParticipantSchema : JsonSchema :=
  .object [
    ("seatIndex", nonnegativeInteger),
    ("userId", .nullable positiveInteger),
    ("displayName", .nullable anyText),
    ("contributionAmount", .nullable anyText),
    ("payoutAmount", .nullable anyText),
    ("winner", .boolean),
    ("bestHandLabel", .nullable anyText),
    ("lastAction", .nullable anyText)]

def disputeEventSchema : JsonSchema :=
  .object [
    ("sequence", nonnegativeInteger),
    ("type", shortText),
    ("actor", HandHistoryEventActorSchema),
    ("createdAt", anyText),
    ("stage", .nullable anyText),
    ("seatIndex", .nullable nonnegativeInteger),
    ("userId", .nullable positiveInteger),
    ("action", .nullable anyText),
    ("timeoutAction", .nullable anyText),
    ("amount", .nullable anyText),
    ("turnTimeBankStartsAt", .nullable anyText),
    ("timeBankConsumedMs", .nullable nonnegativeInteger),
    ("timeBankRemainingMs", .nullable nonnegativeInteger),
    ("winnerSeatIndexes", .array nonnegativeInteger),
    ("revealedSeatIndexes", .array nonnegativeInteger)]

def disputeTableEventSchema : JsonSchema :=
  .object [
    ("sequence", nonnegativeInteger),
    ("type", shortText),
    ("actor", HandHistoryEventActorSchema),
    ("createdAt", anyText),
    ("phase", .nullable anyText),
    ("seatIndex", .nullable nonnegativeInteger),
    ("userId", .nullable positiveInteger),
    ("handHistoryId", .nullable positiveInteger),
    ("action", .nullable anyText),
    ("amount", .nullable anyText),
    ("turnDeadlineAt", .nullable anyText),
    ("turnTimeBankStartsAt", .nullable anyText),
    ("timeBankConsumedMs", .nullable nonnegativeInteger),
    ("timeBankRemainingMs", .nullable nonnegativeInteger),
    ("winnerSeatIndexes", .array nonnegativeInteger),
    ("revealedSeatIndexes", .array nonnegativeInteger)]

def HoldemDisputePayloadSchema : JsonSchema :=
  .object [
    ("schemaVersion", enumText ["holdem_dispute_payload_v1"]),
    ("exportedAt", anyText),
    ("roundId", HandHistoryRoundIdSchema),
    ("referenceId", positiveInteger),
    ("userId", positiveInteger),
    ("status", shortText),
    ("stakeAmount", anyText),
    ("totalStake", anyText),
    ("payoutAmount", anyText),
    ("startedAt", anyText),
    ("settledAt", .nullable anyText),
    ("tableId", .nullable positiveInteger),
    ("tableName", .nullable anyText),
    ("handNumber", .nullable positiveInteger),
    ("stage", .nullable anyText),
    ("fairnessCommitHash", .nullable anyText),
    ("viewerSeatIndex", .nullable nonnegativeInteger),
    ("eventCount", nonnegativeInteger),
    ("tableEventCount", nonnegativeInteger),
    ("participantCount", nonnegativeInteger),
    ("winnerSeatIndexes", .array nonnegativeInteger),
    ("totalRakeAmount", .nullable anyText),
    ("pots", .array HoldemReplayPotSchema),
    ("participants", .array disputeParticipantSchema),
    ("events", .array disputeEventSchema),
    ("tableEvents", .array disputeTableEventSchema)]

def evidenceEventSchema : JsonSchema :=
  .object [
    ("sequence", nonnegativeInteger),
    ("type", shortText),
    ("actor", HandHistoryEventActorSchema),
    ("payload", HandHistoryEventPayloadSchema),
    ("createdAt", anyText)]

def evidenceTableEventSchema : JsonSchema :=
  .object [
    ("sequence", nonnegativeInteger),
    ("type", shortText),
    ("actor", HandHistoryEventActorSchema),
    ("seatIndex", .nullable nonnegativeInteger),
    ("userId", .nullable positiveInteger),
    ("handHistoryId", .nullable positiveInteger),
    ("phase", .nullable anyText),
    ("payload", HandHistoryEventPayloadSchema),
    ("createdAt", anyText)]

def evidenceHistorySchema : JsonSchema :=
  .object [
    ("roundId", HandHistoryRoundIdSchema),
    ("roundType", HandHistoryRoundTypeSchema),
    ("referenceId", positiveInteger),
    ("userId", positiveInteger),
    ("status", shortText),
    ("stakeAmount", anyText),
    ("totalStake", anyText),
    ("payoutAmount", anyText),
    ("fairness", .nullable HandHistoryEventPayloadSchema),
    ("summary", .nullable HandHistoryEventPayloadSchema),
    ("startedAt", anyText),
    ("settledAt", .nullable anyText),
    ("events", .array evidenceEventSchema),
    ("tableEvents", .array evidenceTableEventSchema)]

def HoldemHandEvidenceSchema : JsonSchema :=
  .object [
    ("schemaVersion", enumText ["holdem_hand_evidence_v1"]),
    ("exportedAt", anyText),
    ("disputePayload", HoldemDisputePayloadSchema),
    ("replay", HoldemReplayDataSchema),
    ("history", evidenceHistorySchema)]

def HoldemEvidenceSummaryEntrySchema : JsonSchema :=
  .object [("label", nonEmptyText), ("value", nonEmptyText)]

def HoldemEvidenceSummaryPageSchema : JsonSchema :=
  .object [
    ("title", nonEmptyText),
    ("subtitle", nonEmptyText),
    ("generatedAt", anyText),
    ("overview", .array HoldemEvidenceSummaryEntrySchema),
    ("highlights", .array nonEmptyText),
    ("markdown", nonEmptyText)]

end Schemas

/-! ## Signing -/

structure EvidenceBundleSignature where
  algorithm : String
  keyId : String
  payloadDigest : String
  signature : String

structure SignedEvidenceBundle where
  schemaVersion : String
  roundId : String
  referenceId : ℚ
  exportedAt : String
  summaryPage : JsonValue
  disputePayload : JsonValue
  evidence : JsonValue
  signature : EvidenceBundleSignature

def SignedEvidenceBundle.unsignedPayload (bundle : SignedEvidenceBundle) : JsonValue :=
  .object [
    ("schemaVersion", .string bundle.schemaVersion),
    ("roundId", .string bundle.roundId),
    ("referenceId", .number bundle.referenceId),
    ("exportedAt", .string bundle.exportedAt),
    ("summaryPage", bundle.summaryPage),
    ("disputePayload", bundle.disputePayload),
    ("evidence", bundle.evidence)]

structure SigningEnvironment where
  signingSecret : String
  userJwtSecret : String
  signingKeyId : String
  production : Bool

namespace SigningEnvironment

variable (env : SigningEnvironment)

def getEvidenceSigningSecret : Except ApiError String := do
  let dedicatedSecret := trim env.signingSecret
  let fallbackSecret := trim env.userJwtSecret
  let rawSecret := if dedicatedSecret ≠ "" then dedicatedSecret else fallbackSecret
  ApiError.throwIf (rawSecret = "") (.internalInvariant
    "HAND_HISTORY_EVIDENCE_SIGNING_SECRET or USER_JWT_SECRET must be set.")
  ApiError.throwIf (env.production ∧ dedicatedSecret = "") (.internalInvariant
    "HAND_HISTORY_EVIDENCE_SIGNING_SECRET must be set in production.")
  return rawSecret

def getEvidenceSigningKeyId : String :=
  let keyId := trim env.signingKeyId
  if keyId ≠ "" then keyId else "holdem-hand-history-evidence-v1"

end SigningEnvironment

/-- What the bundle is built with: the texts of numbers, the order of keys, the hashes, and the
properties that the schema of a record finds on an exported record. It finds those of its own, and it
may find others that a `__proto__` key lets it inherit. -/
structure EvidenceRuntime where
  numbers : NumberText ℚ
  localeCompare : Collation
  sha256 : String → String
  hmac : String → String → List UInt8
  hmac_injective : ∀ secret, Function.Injective (hmac secret)
  recordProperties : JsonRecord → JsonRecord
  recordProperties_own : ∀ record, ∀ field ∈ (toSerializableRecord record).fields,
    field ∈ (recordProperties record).fields

namespace EvidenceRuntime

variable (runtime : EvidenceRuntime) (env : SigningEnvironment)

def canonicalizeJson (value : JsonValue) : String :=
  String.ofList (value.canonical runtime.numbers runtime.localeCompare)

/-- `digest("hex")` of the HMAC. -/
def hmacText (secret payload : String) : String :=
  String.ofList (HexText.encode (runtime.hmac secret payload))

def createEvidenceBundleSignature (payload : JsonValue) : Except ApiError EvidenceBundleSignature := do
  let canonicalPayload := runtime.canonicalizeJson payload
  let secret ← env.getEvidenceSigningSecret
  return {
    algorithm := "hmac-sha256"
    keyId := env.getEvidenceSigningKeyId
    payloadDigest := runtime.sha256 canonicalPayload
    signature := runtime.hmacText secret canonicalPayload }

end EvidenceRuntime

def parseSignature (signature : EvidenceBundleSignature) : Option EvidenceBundleSignature :=
  if signature.algorithm = "hmac-sha256" ∧ 0 < textLength signature.keyId ∧
      isDigest signature.payloadDigest ∧ isDigest signature.signature then some signature
  else none

/-- `HoldemSignedEvidenceBundleSchema` -/
def parseSignedEvidenceBundle (bundle : SignedEvidenceBundle) : Option SignedEvidenceBundle := do
  guard (bundle.schemaVersion = "holdem_signed_evidence_bundle_v1")
  guard (isRoundId bundle.roundId)
  guard (isPositiveInteger bundle.referenceId)
  let summaryPage ← HoldemEvidenceSummaryPageSchema.parse bundle.summaryPage
  let disputePayload ← HoldemDisputePayloadSchema.parse bundle.disputePayload
  let evidence ← HoldemHandEvidenceSchema.parse bundle.evidence
  let signature ← parseSignature bundle.signature
  return { bundle with summaryPage, disputePayload, evidence, signature }

namespace EvidenceRuntime

variable (runtime : EvidenceRuntime) (env : SigningEnvironment)

/-- The records are signed with their own properties, and parsed with those that the schema finds. -/
def buildHoldemSignedEvidenceBundle (history : HandHistory) (exportedAt : String) :
    Except ApiError SignedEvidenceBundle :=
  match buildHoldemReplayData history, buildHoldemDisputePayload history exportedAt,
      buildHoldemHandEvidence toSerializableRecord history exportedAt,
      buildHoldemHandEvidence runtime.recordProperties history exportedAt with
  | some replay, some disputePayload, some evidence, some parsedEvidence => do
      let unsigned : SignedEvidenceBundle :=
        { schemaVersion := "holdem_signed_evidence_bundle_v1"
          roundId := history.roundId
          referenceId := history.referenceId
          exportedAt
          summaryPage := buildSummaryPage runtime.numbers history replay exportedAt
          disputePayload
          evidence
          signature := ⟨"", "", "", ""⟩ }
      let signature ← runtime.createEvidenceBundleSignature env unsigned.unsignedPayload
      match parseSignedEvidenceBundle { unsigned with evidence := parsedEvidence, signature } with
      | some parsed => return parsed
      | none => throw (.internalInvariant "Failed to build signed holdem evidence bundle.")
  | _, _, _, _ => .error (.notFound "Evidence bundle not available.")

def toVerificationBuffer (value : String) : List UInt8 :=
  HexText.decode value.toList

def verifyHoldemSignedEvidenceBundle (bundle : SignedEvidenceBundle) : Except ApiError Bool := do
  let canonicalPayload := runtime.canonicalizeJson bundle.unsignedPayload
  let secret ← env.getEvidenceSigningSecret
  let expectedBuffer := toVerificationBuffer (runtime.hmacText secret canonicalPayload)
  let actualBuffer := toVerificationBuffer bundle.signature.signature
  return bundle.signature.payloadDigest = runtime.sha256 canonicalPayload ∧
    actualBuffer.length = expectedBuffer.length ∧ actualBuffer = expectedBuffer

end EvidenceRuntime

end RewardSystem.HandEvidence
