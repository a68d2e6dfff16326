import Mathlib.Algebra.Order.Ring.Rat
import RewardSystem.Lib.DecimalText
import RewardSystem.Lib.JsonSchema
import RewardSystem.Lib.JsonText
import RewardSystem.Shared.Errors

/-!
# Evidence of hold'em hands

The history of a hand is exported as a bundle of a summary page, a dispute payload and the evidence
itself. The readers of the JSON of a history skip what is not of the kind that they look for. Dates
are kept as their text.
-/

namespace RewardSystem.HandEvidence

open CanonicalJson

abbrev JsonValue := Json ℚ

/-- The keys that an object keeps in front, in the order of their numbers. -/
def arrayIndex (key : String) : Option Nat :=
  (DecimalText.readDigits key.toList).filter fun n =>
    Nat.toDigits 10 n = key.toList ∧ n < 4294967295

/-- The fields of an object have different keys, which stand in the order that objects give them. -/
structure JsonRecord where
  fields : List (String × JsonValue)
  arranged : (Json.object fields).AllObjects (Json.Arranged arrayIndex)

/-! ## Histories -/

inductive RoundType where
  | blackjack
  | quickEight
  | holdem
  deriving DecidableEq

def RoundType.text : RoundType → String
  | .blackjack => "blackjack"
  | .quickEight => "quick_eight"
  | .holdem => "holdem"

inductive EventActor where
  | player
  | dealer
  | system
  deriving DecidableEq

def EventActor.text : EventActor → String
  | .player => "player"
  | .dealer => "dealer"
  | .system => "system"

structure HandHistoryEvent where
  sequence : ℚ
  type : String
  actor : EventActor
  payload : JsonRecord
  createdAt : String

structure TableHistoryEvent where
  sequence : ℚ
  type : String
  actor : EventActor
  seatIndex : Option ℚ
  userId : Option ℚ
  handHistoryId : Option ℚ
  phase : Option String
  payload : JsonRecord
  createdAt : String

structure HandHistory where
  roundId : String
  roundType : RoundType
  referenceId : ℚ
  userId : ℚ
  status : String
  stakeAmount : String
  totalStake : String
  payoutAmount : String
  fairness : Option JsonRecord
  summary : Option JsonRecord
  startedAt : String
  settledAt : Option String
  events : List HandHistoryEvent
  tableEvents : List TableHistoryEvent

/-! ## Readers -/

/-- The fields of an object, and none of anything else. -/
def asObject : Option JsonValue → List (String × JsonValue)
  | some (.object fields) => fields
  | _ => []

def property (fields : List (String × JsonValue)) (key : String) : Option JsonValue :=
  (fields.find? fun field => field.1 = key).map Prod.snd

def readString : Option JsonValue → Option String
  | some (.string value) => some value
  | _ => none

def readNumber : Option JsonValue → Option ℚ
  | some (.number value) => some value
  | _ => none

def readBoolean : Option JsonValue → Bool
  | some (.boolean value) => value
  | _ => false

def readNumberArray : Option JsonValue → List ℚ
  | some (.array values) =>
      values.filterMap fun value => (readNumber (some value)).filter fun number => number.den = 1
  | _ => []

/-- An assignment to `__proto__` does not make a property. -/
def toSerializableUnknown : JsonValue → JsonValue :=
  Json.fold id .array fun fields => .object (fields.filter fun field => field.1 ≠ "__proto__")

theorem toSerializableUnknown_arranged {value : JsonValue}
    (h : value.AllObjects (Json.Arranged arrayIndex)) :
    (toSerializableUnknown value).AllObjects (Json.Arranged arrayIndex) := by
  induction value using Json.parts_induction with
  | scalar value hscalar =>
      rw [toSerializableUnknown, Json.fold_scalar hscalar]
      exact h
  | array values ih =>
      rw [toSerializableUnknown, Json.fold_array, Json.allObjects_array, List.forall_mem_map]
      rw [Json.allObjects_array] at h
      exact fun value hvalue => ih value hvalue (h value hvalue)
  | object fields ih =>
      rw [Json.allObjects_object] at h
      rw [toSerializableUnknown, Json.fold_object, Json.allObjects_object]
      have hsub : ((fields.map fun field => (field.1, toSerializableUnknown field.2)).filter
          fun field => field.1 ≠ "__proto__").Sublist
            (fields.map fun field => (field.1, toSerializableUnknown field.2)) :=
        List.filter_sublist
      have hkeys := hsub.map Prod.fst
      rw [List.map_map] at hkeys
      refine ⟨⟨h.1.1.sublist hkeys, h.1.2.sublist hkeys⟩, fun field hfield => ?_⟩
      obtain ⟨original, horiginal, rfl⟩ := List.mem_map.mp (hsub.subset hfield)
      exact ih original horiginal (h.2 original horiginal)

def toSerializableRecord (record : JsonRecord) : JsonRecord where
  fields := (record.fields.map fun field => (field.1, toSerializableUnknown field.2)).filter
    fun field => field.1 ≠ "__proto__"
  arranged := by
    have h := toSerializableUnknown_arranged record.arranged
    rwa [toSerializableUnknown, Json.fold_object] at h

/-- A text, or else `null`. -/
def textOrNull : Option String → JsonValue
  | some value => .string value
  | none => .null

def numberOrNull : Option ℚ → JsonValue
  | some value => .number value
  | none => .null

def numberArray (values : List ℚ) : JsonValue :=
  .array (values.map .number)

def recordOrNull : Option JsonRecord → JsonValue
  | some record => .object record.fields
  | none => .null

def toCardView (value : JsonValue) : Option JsonValue :=
  let card := asObject (some value)
  match readString (property card "rank"), readString (property card "suit") with
  | some rank, some suit =>
      if rank = "" ∨ suit = "" then none
      else some (.object [("rank", .string rank), ("suit", .string suit), ("hidden", .boolean false)])
  | _, _ => none

def toCardViews : Option JsonValue → JsonValue
  | some (.array values) => .array (values.filterMap toCardView)
  | _ => .array []

def toReplayPot (value : JsonValue) : Option JsonValue :=
  let pot := asObject (some value)
  match readString (property pot "kind"), readString (property pot "amount"),
      readNumber (property pot "potIndex") with
  | some kind, some amount, some potIndex =>
      if kind ≠ "main" ∧ kind ≠ "side" then none
      else
        some (.object [
          ("potIndex", .number potIndex),
          ("kind", .string kind),
          ("amount", .string amount),
          ("rakeAmount", .string ((readString (property pot "rakeAmount")).getD "0.00")),
          ("eligibleSeatIndexes", numberArray (readNumberArray (property pot "eligibleSeatIndexes"))),
          ("winnerSeatIndexes", numberArray (readNumberArray (property pot "winnerSeatIndexes")))])
  | _, _, _ => none

def toReplayPots : Option JsonValue → JsonValue
  | some (.array values) => .array (values.filterMap toReplayPot)
  | _ => .array []

structure ReplayParticipant where
  seatIndex : ℚ
  userId : Option ℚ
  displayName : Option String
  contributionAmount : Option String
  payoutAmount : Option String
  stackBefore : Option String
  stackAfter : Option String
  winner : Bool
  status : Option String
  holeCards : JsonValue
  bestHandLabel : Option String
  lastAction : Option String

def ReplayParticipant.toJson (participant : ReplayParticipant) : JsonValue :=
  .object [
    ("seatIndex", .number participant.seatIndex),
    ("userId", numberOrNull participant.userId),
    ("displayName", textOrNull participant.displayName),
    ("contributionAmount", textOrNull participant.contributionAmount),
    ("payoutAmount", textOrNull participant.payoutAmount),
    ("stackBefore", textOrNull participant.stackBefore),
    ("stackAfter", textOrNull participant.stackAfter),
    ("winner", .boolean participant.winner),
    ("status", textOrNull participant.status),
    ("holeCards", participant.holeCards),
    ("bestHandLabel", textOrNull participant.bestHandLabel),
    ("lastAction", textOrNull participant.lastAction)]

def toReplayParticipant (value : JsonValue) : Option ReplayParticipant :=
  let participant := asObject (some value)
  let bestHand := asObject (property participant "bestHand")
  (readNumber (property participant "seatIndex")).map fun seatIndex =>
    { seatIndex
      userId := readNumber (property participant "userId")
      displayName := readString (property participant "displayName")
      contributionAmount := readString (property participant "contributionAmount")
      payoutAmount := readString (property participant "payoutAmount")
      stackBefore := readString (property participant "stackBefore")
      stackAfter := readString (property participant "stackAfter")
      winner := readBoolean (property participant "winner")
      status := readString (property participant "status")
      holeCards := toCardViews (property participant "holeCards")
      bestHandLabel := readString (property bestHand "label")
      lastAction := readString (property participant "lastAction") }

def toReplayParticipants : Option JsonValue → List ReplayParticipant
  | some (.array values) =>
      (values.filterMap toReplayParticipant).mergeSort fun left right =>
        left.seatIndex ≤ right.seatIndex
  | _ => []

structure ReplayEvent where
  sequence : ℚ
  type : String
  actor : EventActor
  createdAt : String
  stage : Option String
  seatIndex : Option ℚ
  userId : Option ℚ
  action : Option String
  timeoutAction : Option String
  amount : Option String
  stackAmount : Option String
  committedAmount : Option String
  totalCommittedAmount : Option String
  lastAction : Option String
  turnDeadlineAt : Option String
  turnTimeBankStartsAt : Option String
  timeBankConsumedMs : Option ℚ
  timeBankRemainingMs : Option ℚ
  boardCards : JsonValue
  newCards : JsonValue
  winnerSeatIndexes : List ℚ
  revealedSeatIndexes : List ℚ
  pots : JsonValue
  participants : List ReplayParticipant

def toReplayEvent (event : HandHistoryEvent) : ReplayEvent :=
  let payload := event.payload.fields
  { sequence := event.sequence
    type := event.type
    actor := event.actor
    createdAt := event.createdAt
    stage := (readString (property payload "stage")).or (readString (property payload "phase"))
    seatIndex := readNumber (property payload "seatIndex")
    userId := readNumber (property payload "userId")
    action := readString (property payload "action")
    timeoutAction := readString (property payload "timeoutAction")
    amount := readString (property payload "amount")
    stackAmount := readString (property payload "stackAmount")
    committedAmount := readString (property payload "committedAmount")
    totalCommittedAmount := readString (property payload "totalCommittedAmount")
    lastAction := readString (property payload "lastAction")
    turnDeadlineAt := readString (property payload "turnDeadlineAt")
    turnTimeBankStartsAt := readString (property payload "turnTimeBankStartsAt")
    timeBankConsumedMs := readNumber (property payload "timeBankConsumedMs")
    timeBankRemainingMs := readNumber (property payload "timeBankRemainingMs")
    boardCards := toCardViews (property payload "boardCards")
    newCards := toCardViews (property payload "newCards")
    winnerSeatIndexes := readNumberArray (property payload "winnerSeatIndexes")
    revealedSeatIndexes := readNumberArray (property payload "revealedSeatIndexes")
    pots := toReplayPots (property payload "pots")
    participants := toReplayParticipants (property payload "participants") }

def ReplayEvent.toJson (event : ReplayEvent) : JsonValue :=
  .object [
    ("sequence", .number event.sequence),
    ("type", .string event.type),
    ("actor", .string event.actor.text),
    ("createdAt", .string event.createdAt),
    ("stage", textOrNull event.stage),
    ("seatIndex", numberOrNull event.seatIndex),
    ("userId", numberOrNull event.userId),
    ("action", textOrNull event.action),
    ("timeoutAction", textOrNull event.timeoutAction),
    ("amount", textOrNull event.amount),
    ("stackAmount", textOrNull event.stackAmount),
    ("committedAmount", textOrNull event.committedAmount),
    ("totalCommittedAmount", textOrNull event.totalCommittedAmount),
    ("lastAction", textOrNull event.lastAction),
    ("turnDeadlineAt", textOrNull event.turnDeadlineAt),
    ("turnTimeBankStartsAt", textOrNull event.turnTimeBankStartsAt),
    ("timeBankConsumedMs", numberOrNull event.timeBankConsumedMs),
    ("timeBankRemainingMs", numberOrNull event.timeBankRemainingMs),
    ("boardCards", event.boardCards),
    ("newCards", event.newCards),
    ("winnerSeatIndexes", numberArray event.winnerSeatIndexes),
    ("revealedSeatIndexes", numberArray event.revealedSeatIndexes),
    ("pots", event.pots),
    ("participants", .array (event.participants.map ReplayParticipant.toJson))]

def toReplayTableEvent (event : TableHistoryEvent) : JsonValue :=
  let payload := event.payload.fields
  .object [
    ("sequence", .number event.sequence),
    ("type", .string event.type),
    ("actor", .string event.actor.text),
    ("createdAt", .string event.createdAt),
    ("phase", textOrNull event.phase),
    ("seatIndex", numberOrNull event.seatIndex),
    ("userId", numberOrNull event.userId),
    ("handHistoryId", numberOrNull event.handHistoryId),
    ("action", textOrNull (readString (property payload "action"))),
    ("amount", textOrNull (readString (property payload "amount"))),
    ("turnDeadlineAt", textOrNull (readString (property payload "turnDeadlineAt"))),
    ("turnTimeBankStartsAt", textOrNull (readString (property payload "turnTimeBankStartsAt"))),
    ("timeBankConsumedMs", numberOrNull (readNumber (property payload "timeBankConsumedMs"))),
    ("timeBankRemainingMs", numberOrNull (readNumber (property payload "timeBankRemainingMs"))),
    ("winnerSeatIndexes", numberArray (readNumberArray (property payload "winnerSeatIndexes"))),
    ("revealedSeatIndexes", numberArray (readNumberArray (property payload "revealedSeatIndexes")))]

/-! ## The exported documents -/

structure ReplayData where
  roundId : String
  userId : ℚ
  startedAt : String
  settledAt : Option String
  handNumber : Option ℚ
  tableId : Option ℚ
  tableName : Option String
  status : String
  stage : Option String
  fairnessCommitHash : Option String
  totalRakeAmount : Option String
  smallBlind : Option String
  bigBlind : Option String
  dealerSeatIndex : Option ℚ
  smallBlindSeatIndex : Option ℚ
  bigBlindSeatIndex : Option ℚ
  pendingActorSeatIndex : Option ℚ
  winnerSeatIndexes : List ℚ
  revealedSeatIndexes : List ℚ
  boardCards : JsonValue
  pots : JsonValue
  participants : List ReplayParticipant
  events : List ReplayEvent
  viewerSeatIndex : Option ℚ
  stakeAmount : String
  payoutAmount : String

def fieldsOrNone : Option JsonRecord → List (String × JsonValue)
  | some record => record.fields
  | none => []

def buildHoldemReplayData (history : HandHistory) : Option ReplayData :=
  if history.roundType ≠ .holdem then none
  else
    let summary := fieldsOrNone history.summary
    let fairness := fieldsOrNone history.fairness
    let participants := toReplayParticipants (property summary "participants")
    let blinds := asObject (property summary "blinds")
    some
      { roundId := history.roundId
        userId := history.userId
        startedAt := history.startedAt
        settledAt := history.settledAt
        handNumber := readNumber (property summary "handNumber")
        tableId := readNumber (property summary "tableId")
        tableName := readString (property summary "tableName")
        status := history.status
        stage := readString (property summary "stage")
        fairnessCommitHash := readString (property fairness "commitHash")
        totalRakeAmount := readString (property summary "totalRakeAmount")
        smallBlind := readString (property blinds "smallBlind")
        bigBlind := readString (property blinds "bigBlind")
        dealerSeatIndex := readNumber (property summary "dealerSeatIndex")
        smallBlindSeatIndex := readNumber (property summary "smallBlindSeatIndex")
        bigBlindSeatIndex := readNumber (property summary "bigBlindSeatIndex")
        pendingActorSeatIndex := readNumber (property summary "pendingActorSeatIndex")
        winnerSeatIndexes := readNumberArray (property summary "winnerSeatIndexes")
        revealedSeatIndexes := readNumberArray (property summary "revealedSeatIndexes")
        boardCards := toCardViews (property summary "boardCards")
        pots := toReplayPots (property summary "pots")
        participants
        events := history.events.map toReplayEvent
        viewerSeatIndex := (participants.find? fun participant =>
          participant.userId = some history.userId).map ReplayParticipant.seatIndex
        stakeAmount := history.stakeAmount
        payoutAmount := history.payoutAmount }

def ReplayData.toJson (replay : ReplayData) : JsonValue :=
  .object [
    ("roundId", .string replay.roundId),
    ("userId", .number replay.userId),
    ("startedAt", .string replay.startedAt),
    ("settledAt", textOrNull replay.settledAt),
    ("handNumber", numberOrNull replay.handNumber),
    ("tableId", numberOrNull replay.tableId),
    ("tableName", textOrNull replay.tableName),
    ("status", .string replay.status),
    ("stage", textOrNull replay.stage),
    ("fairnessCommitHash", textOrNull replay.fairnessCommitHash),
    ("totalRakeAmount", textOrNull replay.totalRakeAmount),
    ("blinds", .object [
      ("smallBlind", textOrNull replay.smallBlind),
      ("bigBlind", textOrNull replay.bigBlind)]),
    ("dealerSeatIndex", numberOrNull replay.dealerSeatIndex),
    ("smallBlindSeatIndex", numberOrNull replay.smallBlindSeatIndex),
    ("bigBlindSeatIndex", numberOrNull replay.bigBlindSeatIndex),
    ("pendingActorSeatIndex", numberOrNull replay.pendingActorSeatIndex),
    ("winnerSeatIndexes", numberArray replay.winnerSeatIndexes),
    ("revealedSeatIndexes", numberArray replay.revealedSeatIndexes),
    ("boardCards", replay.boardCards),
    ("pots", replay.pots),
    ("participants", .array (replay.participants.map ReplayParticipant.toJson)),
    ("events", .array (replay.events.map ReplayEvent.toJson)),
    ("viewerSeatIndex", numberOrNull replay.viewerSeatIndex),
    ("stakeAmount", .string replay.stakeAmount),
    ("payoutAmount", .string replay.payoutAmount)]

def disputeParticipant (participant : ReplayParticipant) : JsonValue :=
  .object [
    ("seatIndex", .number participant.seatIndex),
    ("userId", numberOrNull participant.userId),
    ("displayName", textOrNull participant.displayName),
    ("contributionAmount", textOrNull participant.contributionAmount),
    ("payoutAmount", textOrNull participant.payoutAmount),
    ("winner", .boolean participant.winner),
    ("bestHandLabel", textOrNull participant.bestHandLabel),
    ("lastAction", textOrNull participant.lastAction)]

def disputeEvent (event : ReplayEvent) : JsonValue :=
  .object [
    ("sequence", .number event.sequence),
    ("type", .string event.type),
    ("actor", .string event.actor.text),
    ("createdAt", .string event.createdAt),
    ("stage", textOrNull event.stage),
    ("seatIndex", numberOrNull event.seatIndex),
    ("userId", numberOrNull event.userId),
    ("action", textOrNull event.action),
    ("timeoutAction", textOrNull event.timeoutAction),
    ("amount", textOrNull event.amount),
    ("turnTimeBankStartsAt", textOrNull event.turnTimeBankStartsAt),
    ("timeBankConsumedMs", numberOrNull event.timeBankConsumedMs),
    ("timeBankRemainingMs", numberOrNull event.timeBankRemainingMs),
    ("winnerSeatIndexes", numberArray event.winnerSeatIndexes),
    ("revealedSeatIndexes", numberArray event.revealedSeatIndexes)]

def numberOfLength {α : Type} (items : List α) : JsonValue :=
  .number items.length

def buildHoldemDisputePayload (history : HandHistory) (exportedAt : String) : Option JsonValue :=
  (buildHoldemReplayData history).map fun replay =>
    .object [
      ("schemaVersion", .string "holdem_dispute_payload_v1"),
      ("exportedAt", .string exportedAt),
      ("roundId", .string history.roundId),
      ("referenceId", .number history.referenceId),
      ("userId", .number history.userId),
      ("status", .string history.status),
      ("stakeAmount", .string history.stakeAmount),
      ("totalStake", .string history.totalStake),
      ("payoutAmount", .string history.payoutAmount),
      ("startedAt", .string replay.startedAt),
      ("settledAt", textOrNull replay.settledAt),
      ("tableId", numberOrNull replay.tableId),
      ("tableName", textOrNull replay.tableName),
      ("handNumber", numberOrNull replay.handNumber),
      ("stage", textOrNull replay.stage),
      ("fairnessCommitHash", textOrNull replay.fairnessCommitHash),
      ("viewerSeatIndex", numberOrNull replay.viewerSeatIndex),
      ("eventCount", numberOfLength replay.events),
      ("tableEventCount", numberOfLength history.tableEvents),
      ("participantCount", numberOfLength replay.participants),
      ("winnerSeatIndexes", numberArray replay.winnerSeatIndexes),
      ("totalRakeAmount", textOrNull replay.totalRakeAmount),
      ("pots", replay.pots),
      ("participants", .array (replay.participants.map disputeParticipant)),
      ("events", .array (replay.events.map disputeEvent)),
      ("tableEvents", .array (history.tableEvents.map toReplayTableEvent))]

section HandEvidence

/-! A record is exported with the properties that its reader finds on it. -/

variable (properties : JsonRecord → JsonRecord)

def historyEvent (event : HandHistoryEvent) : JsonValue :=
  .object [
    ("sequence", .number event.sequence),
    ("type", .string event.type),
    ("actor", .string event.actor.text),
    ("payload", .object (properties event.payload).fields),
    ("createdAt", .string event.createdAt)]

def historyTableEvent (event : TableHistoryEvent) : JsonValue :=
  .object [
    ("sequence", .number event.sequence),
    ("type", .string event.type),
    ("actor", .string event.actor.text),
    ("seatIndex", numberOrNull event.seatIndex),
    ("userId", numberOrNull event.userId),
    ("handHistoryId", numberOrNull event.handHistoryId),
    ("phase", textOrNull event.phase),
    ("payload", .object (properties event.payload).fields),
    ("createdAt", .string event.createdAt)]

def evidenceHistory (history : HandHistory) : JsonValue :=
  .object [
    ("roundId", .string history.roundId),
    ("roundType", .string history.roundType.text),
    ("referenceId", .number history.referenceId),
    ("userId", .number history.userId),
    ("status", .string history.status),
    ("stakeAmount", .string history.stakeAmount),
    ("totalStake", .string history.totalStake),
    ("payoutAmount", .string history.payoutAmount),
    ("fairness", recordOrNull (history.fairness.map properties)),
    ("summary", recordOrNull (history.summary.map properties)),
    ("startedAt", .string history.startedAt),
    ("settledAt", textOrNull history.settledAt),
    ("events", .array (history.events.map (historyEvent properties))),
    ("tableEvents", .array (history.tableEvents.map (historyTableEvent properties)))]

def buildHoldemHandEvidence (history : HandHistory) (exportedAt : String) : Option JsonValue :=
  match buildHoldemReplayData history, buildHoldemDisputePayload history exportedAt with
  | some replay, some disputePayload =>
      some (.object [
        ("schemaVersion", .string "holdem_hand_evidence_v1"),
        ("exportedAt", .string exportedAt),
        ("disputePayload", disputePayload),
        ("replay", replay.toJson),
        ("history", evidenceHistory properties history)])
  | _, _ => none

end HandEvidence

/-! ## The summary page -/

section SummaryPage

variable (numbers : NumberText ℚ)

def numberText (value : ℚ) : String :=
  String.ofList (numbers.text value)

def formatSeatLabel (replay : ReplayData) : Option ℚ → String
  | none => "—"
  | some seatIndex =>
      let participant := replay.participants.find? fun entry => entry.seatIndex = seatIndex
      let label :=
        match participant.bind ReplayParticipant.displayName with
        | none | some "" => "Seat " ++ numberText numbers (seatIndex + 1)
        | some displayName => displayName
      if replay.viewerSeatIndex = some seatIndex then label ++ " (viewer)" else label

def handLabel (replay : ReplayData) : String :=
  match replay.handNumber with
  | some handNumber => "Hand #" ++ numberText numbers handNumber
  | none => "Hand"

def tableLabel (replay : ReplayData) : String :=
  match replay.tableName, replay.tableId with
  | some tableName, _ => tableName
  | none, some tableId => "Table #" ++ numberText numbers tableId
  | none, none => "Hold'em table"

def overview (history : HandHistory) (replay : ReplayData) : List (String × String) :=
  [("Round id", history.roundId),
    ("Reference id", numberText numbers history.referenceId),
    ("Table", tableLabel numbers replay),
    ("Status", history.status),
    ("Viewer seat", formatSeatLabel numbers replay replay.viewerSeatIndex),
    ("Stake", history.stakeAmount),
    ("Payout", history.payoutAmount),
    ("Fairness commit", replay.fairnessCommitHash.getD "Unavailable"),
    ("Event count", numberText numbers history.events.length),
    ("Table event count", numberText numbers history.tableEvents.length)]

def highlights (history : HandHistory) (replay : ReplayData) : List String :=
  let settled :=
    match replay.settledAt with
    | none | some "" => "is archived"
    | some settledAt => "settled at " ++ settledAt
  let rake :=
    match replay.totalRakeAmount with
    | none | some "" => ""
    | some totalRakeAmount => ", rake " ++ totalRakeAmount
  let winnerLabels := replay.winnerSeatIndexes.map fun seatIndex =>
    formatSeatLabel numbers replay (some seatIndex)
  [handLabel numbers replay ++ " on " ++ tableLabel numbers replay ++ " " ++ settled ++
      " with status " ++ history.status ++ ".",
    "Viewer stake " ++ history.stakeAmount ++ ", payout " ++ history.payoutAmount ++ rake ++ ".",
    if winnerLabels ≠ [] then "Winning seats: " ++ ", ".intercalate winnerLabels ++ "."
    else "Winning seats were not recorded."]

def markdown (history : HandHistory) (replay : ReplayData) : String :=
  "\n".intercalate
    (["# Hold'em Evidence Summary", "", handLabel numbers replay ++ " · " ++ tableLabel numbers replay,
        "", "## Overview"] ++
      (overview numbers history replay).map (fun entry => "- " ++ entry.1 ++ ": " ++ entry.2) ++
      ["", "## Highlights"] ++ (highlights numbers history replay).map ("- " ++ ·) ++
      ["", "## Timeline"] ++
      history.events.map (fun event => "- [" ++ event.createdAt ++ "] " ++ event.type) ++
      ["", "## Table Context"] ++
      history.tableEvents.map fun event => "- [" ++ event.createdAt ++ "] " ++ event.type)

def buildSummaryPage (history : HandHistory) (replay : ReplayData) (exportedAt : String) :
    JsonValue :=
  .object [
    ("title", .string "Hold'em Evidence Summary"),
    ("subtitle", .string (handLabel numbers replay ++ " · " ++ tableLabel numbers replay)),
    ("generatedAt", .string exportedAt),
    ("overview", .array ((overview numbers history replay).map fun entry =>
      .object [("label", .string entry.1), ("value", .string entry.2)])),
    ("highlights", .array ((highlights numbers history replay).map .string)),
    ("markdown", .string (markdown numbers history replay))]

end SummaryPage

end RewardSystem.HandEvidence
