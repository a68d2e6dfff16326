import RewardSystem.HandEvidence.Content

/-!
# The history a participant is given

The summary of a hand is shown without the hole cards of the seats that are neither revealed nor the
viewer's own. The seats of an event are masked by the seats of all participants.
-/

namespace RewardSystem.HandEvidence

/-- An object of a list of participants or seats. -/
structure SeatRecord where
  seatIndex : Option JsonValue
  userId : Option JsonValue
  holeCards : Option JsonValue
  rest : List (String × JsonValue)

inductive Entry where
  | object (record : SeatRecord)
  | other (value : JsonValue)

inductive ListField where
  | array (entries : List Entry)
  | other (value : JsonValue)

structure Payload where
  participants : Option ListField
  seats : Option ListField
  revealedSeatIndexes : Option JsonValue
  rest : List (String × JsonValue)

structure EventRow where
  eventIndex : ℚ
  eventType : String
  actor : EventActor
  payload : Payload
  createdAt : String

structure TableEventRow extends EventRow where
  seatIndex : Option ℚ
  userId : Option ℚ
  handHistoryId : Option ℚ
  phase : Option String

/-- The columns of a hand that its history repeats. -/
structure HandColumns where
  referenceId : ℚ
  status : String
  summary : Payload
  fairness : Option JsonRecord
  startedAt : String
  settledAt : Option String

structure HandHistoryRow extends HandColumns where
  id : ℚ
  participantUserIds : List ℚ

/-- The rows of a hand. -/
structure StoredHand where
  row : HandHistoryRow
  rows : List EventRow
  tableRows : List TableEventRow

structure HoldemHistory extends HandColumns where
  roundId : RoundType × ℚ
  userId : ℚ
  stakeAmount : String
  totalStake : String
  payoutAmount : String
  events : List EventRow
  tableEvents : List TableEventRow

def readNumberArrayField (value : Option JsonValue) : List ℚ :=
  (readNumberArray value).filter fun entry => 0 ≤ entry

def Entry.toObject : Entry → Option SeatRecord
  | .object record => some record
  | .other _ => none

def readObjectArrayField : Option ListField → List SeatRecord
  | some (.array entries) => entries.filterMap Entry.toObject
  | _ => []

def objectArray (records : List SeatRecord) : Option ListField :=
  some (.array (records.map .object))

def seatOf (record : SeatRecord) : Option ℚ :=
  readNumber record.seatIndex

def participantOf (summary : Payload) (userId : ℚ) : Option SeatRecord :=
  (readObjectArrayField summary.participants).find? fun participant =>
    readNumber participant.userId = some userId

def visibleSeatIndexes (summary : Payload) (viewerUserId : ℚ) : List ℚ :=
  readNumberArrayField summary.revealedSeatIndexes ++
    ((participantOf summary viewerUserId).bind seatOf).toList

def maskHoleCards (visible : List ℚ) (record : SeatRecord) : SeatRecord :=
  if (seatOf record).any (· ∈ visible) then record else { record with holeCards := none }

def sanitizeHoldemParticipants (summary : Payload) (viewerUserId : ℚ) : List SeatRecord :=
  (readObjectArrayField summary.participants).map
    (maskHoleCards (visibleSeatIndexes summary viewerUserId))

def sanitizeHoldemSummary (summary : Payload) (viewerUserId : ℚ) : Payload :=
  { summary with participants := objectArray (sanitizeHoldemParticipants summary viewerUserId) }

def sanitizeHoldemEventPayload (payload : Payload) (viewerUserId : ℚ) (summary : Payload) :
    Payload :=
  let participants := sanitizeHoldemParticipants summary viewerUserId
  let seats := readObjectArrayField payload.seats
  { payload with
    seats := if seats.isEmpty then payload.seats
      else objectArray (seats.map (maskHoleCards (participants.filterMap seatOf)))
    participants := if (readObjectArrayField payload.participants).isEmpty then payload.participants
      else objectArray participants }

def EventRow.sanitize (row : EventRow) (userId : ℚ) (summary : Payload) : EventRow :=
  { row with payload := sanitizeHoldemEventPayload row.payload userId summary }

def TableEventRow.sanitize (row : TableEventRow) (userId : ℚ) (summary : Payload) : TableEventRow :=
  { row with toEventRow := row.toEventRow.sanitize userId summary }

def buildHoldemHistory (hand : StoredHand) (userId : ℚ) : HoldemHistory :=
  let summary := sanitizeHoldemSummary hand.row.summary userId
  let amount := fun key =>
    (readString ((participantOf summary userId).bind fun participant =>
      property participant.rest key)).getD "0.00"
  { hand.row with
    roundId := (.holdem, hand.row.id)
    userId
    stakeAmount := amount "contributionAmount"
    totalStake := amount "contributionAmount"
    payoutAmount := amount "payoutAmount"
    summary
    events := hand.rows.map fun row => row.sanitize userId summary
    tableEvents := hand.tableRows.map fun row => row.sanitize userId summary }

/-- The branch of hold'em, on the rows that are found. -/
def getHandHistory (stored : Option StoredHand) (userId : ℚ) : Except ApiError HoldemHistory :=
  match stored with
  | none => .error (.notFound "Hand history not found.")
  | some hand =>
      if userId ∈ hand.row.participantUserIds then .ok (buildHoldemHistory hand userId)
      else .error (.notFound "Hand history not found.")

/-! ## What a viewer is shown -/

/-- The records differ in the hole cards at most, and not at all if their seat is visible. -/
structure AlikeFor (visible : List ℚ) (record other : SeatRecord) : Prop where
  rest : { record with holeCards := none } = { other with holeCards := none }
  shown : (seatOf record).any (· ∈ visible) → record = other

structure SummariesAlike (viewerUserId : ℚ) (summary other : Payload) : Prop where
  rest : other = { summary with participants := other.participants }
  participants : List.Forall₂ (AlikeFor (visibleSeatIndexes summary viewerUserId))
    (readObjectArrayField summary.participants) (readObjectArrayField other.participants)

def participantSeats (summary : Payload) : List ℚ :=
  (readObjectArrayField summary.participants).filterMap seatOf

/-- The payloads differ in the participants they list and in the cards of other seats. -/
structure PayloadsAlike (seats : List ℚ) (payload other : Payload) : Prop where
  rest : other = { payload with seats := other.seats, participants := other.participants }
  seats : payload.seats = other.seats ∨ readObjectArrayField payload.seats ≠ [] ∧
    List.Forall₂ (AlikeFor seats) (readObjectArrayField payload.seats)
      (readObjectArrayField other.seats)
  participants : payload.participants = other.participants ∨
    readObjectArrayField payload.participants ≠ [] ∧ readObjectArrayField other.participants ≠ []

structure RowsAlike (seats : List ℚ) (row other : EventRow) : Prop where
  rest : other = { row with payload := other.payload }
  payload : PayloadsAlike seats row.payload other.payload

structure HandsAlike (viewerUserId : ℚ) (hand other : StoredHand) : Prop where
  row : other.row = { hand.row with summary := other.row.summary }
  summary : SummariesAlike viewerUserId hand.row.summary other.row.summary
  rows : List.Forall₂ (RowsAlike (participantSeats hand.row.summary)) hand.rows other.rows
  tableRows : List.Forall₂ (fun row row' => row' = { row with toEventRow := row'.toEventRow } ∧
    RowsAlike (participantSeats hand.row.summary) row.toEventRow row'.toEventRow)
    hand.tableRows other.tableRows

variable {visible : List ℚ} {record other : SeatRecord} {records others : List SeatRecord}
  {summary summary' payload payload' : Payload} {viewerUserId : ℚ}

theorem map_eq_of_forall₂ {α β : Type} {R : α → α → Prop} {f : α → β} {xs ys : List α}
    (h : List.Forall₂ R xs ys) (hf : ∀ x y, R x y → f x = f y) : xs.map f = ys.map f := by
  induction h with
  | nil => rfl
  | cons hfirst _ ih => rw [List.map_cons, List.map_cons, hf _ _ hfirst, ih]

@[simp]
theorem readObjectArrayField_objectArray (records : List SeatRecord) :
    readObjectArrayField (objectArray records) = records :=
  (List.filterMap_map ..).trans (List.filterMap_some ..)

@[simp]
theorem seatOf_mask : seatOf (maskHoleCards visible record) = seatOf record := by
  unfold maskHoleCards
  split_ifs <;> rfl

theorem AlikeFor.seatOf_eq (h : AlikeFor visible record other) : seatOf record = seatOf other :=
  congrArg readNumber (SeatRecord.mk.inj h.rest).1

theorem AlikeFor.mask (h : AlikeFor visible record other) :
    maskHoleCards visible record = maskHoleCards visible other := by
  unfold maskHoleCards
  rw [← h.seatOf_eq]
  split_ifs with hvisible
  · exact h.shown hvisible
  · exact h.rest

theorem SummariesAlike.seat_eq (h : SummariesAlike viewerUserId summary summary') :
    (participantOf summary viewerUserId).bind seatOf =
      (participantOf summary' viewerUserId).bind seatOf := by
  have hrecords := h.participants
  unfold participantOf
  generalize readObjectArrayField summary.participants = records at hrecords
  generalize readObjectArrayField summary'.participants = others at hrecords
  induction hrecords with
  | nil => rfl
  | cons hfirst _ ih =>
      rw [List.find?_cons, List.find?_cons, ← (SeatRecord.mk.inj hfirst.rest).2.1]
      split
      · exact hfirst.seatOf_eq
      · exact ih

theorem SummariesAlike.visible_eq (h : SummariesAlike viewerUserId summary summary') :
    visibleSeatIndexes summary viewerUserId = visibleSeatIndexes summary' viewerUserId := by
  unfold visibleSeatIndexes
  rw [h.seat_eq, h.rest]

theorem SummariesAlike.sanitized (h : SummariesAlike viewerUserId summary summary') :
    sanitizeHoldemSummary summary viewerUserId = sanitizeHoldemSummary summary' viewerUserId := by
  unfold sanitizeHoldemSummary sanitizeHoldemParticipants
  rw [← h.visible_eq, ← map_eq_of_forall₂ h.participants fun _ _ => AlikeFor.mask, h.rest]

@[simp]
theorem participantSeats_sanitized :
    (sanitizeHoldemParticipants (sanitizeHoldemSummary summary viewerUserId)
      viewerUserId).filterMap seatOf = participantSeats summary := by
  simp [sanitizeHoldemParticipants, sanitizeHoldemSummary, participantSeats, List.filterMap_map,
    Function.comp_def]

theorem PayloadsAlike.sanitized (h : PayloadsAlike (participantSeats summary) payload payload') :
    sanitizeHoldemEventPayload payload viewerUserId (sanitizeHoldemSummary summary viewerUserId) =
      sanitizeHoldemEventPayload payload' viewerUserId
        (sanitizeHoldemSummary summary viewerUserId) := by
  unfold sanitizeHoldemEventPayload
  rw [h.rest]
  simp only [participantSeats_sanitized, Payload.mk.injEq, and_true]
  constructor
  · rcases h.participants with hsame | ⟨hfilled, hfilled'⟩
    · rw [hsame]
    · simp [hfilled, hfilled']
  · rcases h.seats with hsame | ⟨hfilled, halike⟩
    · rw [hsame]
    · have hfilled' : readObjectArrayField payload'.seats ≠ [] := fun hempty =>
        hfilled (List.forall₂_nil_right_iff.mp (hempty ▸ halike))
      simp [hfilled, hfilled', map_eq_of_forall₂ halike fun _ _ => AlikeFor.mask]

theorem RowsAlike.sanitized (userId : ℚ) {row row' : EventRow}
    (h : RowsAlike (participantSeats summary) row row') :
    row.sanitize userId (sanitizeHoldemSummary summary userId) =
      row'.sanitize userId (sanitizeHoldemSummary summary userId) := by
  unfold EventRow.sanitize
  rw [h.rest, h.payload.sanitized]

theorem seats_sanitized (hlisted : ∀ seat ∈ readObjectArrayField payload.seats,
      ∃ i ∈ participantSeats summary, seatOf seat = some i) :
    readObjectArrayField (sanitizeHoldemEventPayload payload viewerUserId
      (sanitizeHoldemSummary summary viewerUserId)).seats = readObjectArrayField payload.seats := by
  unfold sanitizeHoldemEventPayload
  simp only [participantSeats_sanitized]
  split_ifs with hempty
  · rfl
  · rw [readObjectArrayField_objectArray]
    refine (List.map_congr_left fun seat hseat => ?_).trans (List.map_id _)
    obtain ⟨i, hi, hindex⟩ := hlisted seat hseat
    simp [maskHoleCards, hindex, hi]

/-- **What a participant is not shown** makes no difference to the history. -/
theorem history_hides {hand other : StoredHand} (h : HandsAlike viewerUserId hand other) :
    getHandHistory (some hand) viewerUserId = getHandHistory (some other) viewerUserId := by
  have hevents := map_eq_of_forall₂ h.rows fun _ _ => RowsAlike.sanitized viewerUserId
  have htableEvents : hand.tableRows.map (fun row => row.sanitize viewerUserId
      (sanitizeHoldemSummary hand.row.summary viewerUserId)) = other.tableRows.map fun row =>
        row.sanitize viewerUserId (sanitizeHoldemSummary hand.row.summary viewerUserId) := by
    refine map_eq_of_forall₂ h.tableRows fun row row' ⟨hrest, hrow⟩ => ?_
    unfold TableEventRow.sanitize
    rw [hrest, hrow.sanitized]
  simp only [getHandHistory, buildHoldemHistory]
  rw [h.row]
  dsimp only
  rw [hevents, htableEvents, h.summary.sanitized]

def sampleSeat (seat : ℚ) (cards : String) : SeatRecord :=
  ⟨some (.number seat), some (.number seat), some (.string cards), []⟩

/-- Two players have been dealt their cards. -/
def sampleHand (cards : String) : StoredHand where
  row :=
    { id := 1, referenceId := 1, participantUserIds := [1, 2], status := "active", fairness := none
      summary := ⟨objectArray [sampleSeat 1 "AhAd", sampleSeat 2 cards], none, none, []⟩
      startedAt := "2024-02-29", settledAt := none }
  rows := [⟨0, "hole_cards_dealt", .dealer,
    ⟨none, objectArray [sampleSeat 1 "AhAd", sampleSeat 2 "KcKs"], none, []⟩, "2024-02-29"⟩]
  tableRows := []

theorem history_hides_sample :
    getHandHistory (some (sampleHand "KcKs")) 1 = getHandHistory (some (sampleHand "7d2c")) 1 :=
  history_hides
    { row := rfl
      summary := ⟨rfl, .cons ⟨rfl, fun _ => rfl⟩
        (.cons ⟨rfl, fun hshown => absurd hshown (by decide +kernel)⟩ .nil)⟩
      rows := .cons ⟨rfl, ⟨rfl, .inl rfl, .inl rfl⟩⟩ .nil
      tableRows := .nil }

/-- **What every participant is shown**: the cards of all participants, as an event lists them. -/
theorem history_shows {hand : StoredHand} (hmem : viewerUserId ∈ hand.row.participantUserIds) :
    ∃ history, getHandHistory (some hand) viewerUserId = .ok history ∧
      List.Forall₂ (fun row event =>
        (∀ seat ∈ readObjectArrayField row.payload.seats,
          ∃ i ∈ participantSeats hand.row.summary, seatOf seat = some i) →
        readObjectArrayField event.payload.seats = readObjectArrayField row.payload.seats)
        hand.rows history.events :=
  ⟨_, if_pos hmem,
    List.forall₂_map_right_iff.mpr (List.forall₂_same.mpr fun _ _ => seats_sanitized)⟩

theorem history_shows_sample : ∃ history,
    getHandHistory (some (sampleHand "KcKs")) 1 = .ok history ∧ ∃ event ∈ history.events,
      readObjectArrayField event.payload.seats = [sampleSeat 1 "AhAd", sampleSeat 2 "KcKs"] := by
  obtain ⟨history, hhistory, hevents⟩ :=
    history_shows (show (1 : ℚ) ∈ (sampleHand "KcKs").row.participantUserIds by decide)
  obtain ⟨event, _, hshown, -, hevent⟩ := List.forall₂_cons_left_iff.mp hevents
  refine ⟨history, hhistory, event, by simp [hevent], hshown ?_⟩
  decide +kernel

end RewardSystem.HandEvidence
