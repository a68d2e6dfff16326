import RewardSystem.HandEvidence.Bundle

/-!
# Reading bundles back

A bundle that is stored as JSON may come back with the keys of its objects in another order. Its
signature holds in every order if and only if no two keys of an exported object are tied.
-/

namespace RewardSystem.HandEvidence

open CanonicalJson Schema

/-! ## The exported documents fit their schemas -/

section Shapes

theorem summaryPageSchema_wellKeyed :
    HoldemEvidenceSummaryPageSchema.wellKeyed arrayIndex = true := by
  decide +kernel

theorem disputePayloadSchema_wellKeyed :
    HoldemDisputePayloadSchema.wellKeyed arrayIndex = true := by
  decide +kernel

theorem handEvidenceSchema_wellKeyed :
    HoldemHandEvidenceSchema.wellKeyed arrayIndex = true := by
  decide +kernel

variable {place : String → Option Nat}

@[simp]
theorem shaped_string {check : String → Bool} {value : String} :
    Shaped place (.text check) (Json.string value : JsonValue) :=
  trivial

@[simp]
theorem shaped_number {check : ℚ → Bool} {value : ℚ} :
    Shaped place (.number check) (Json.number value) :=
  trivial

@[simp]
theorem shaped_boolean {value : Bool} : Shaped place .boolean (Json.boolean value : JsonValue) :=
  trivial

@[simp]
theorem shaped_textOrNull {check : String → Bool} {value : Option String} :
    Shaped place (.nullable (.text check)) (textOrNull value) := by
  cases value with
  | none => exact .inl rfl
  | some text => exact .inr trivial

@[simp]
theorem shaped_numberOrNull {check : ℚ → Bool} {value : Option ℚ} :
    Shaped place (.nullable (.number check)) (numberOrNull value) := by
  cases value with
  | none => exact .inl rfl
  | some amount => exact .inr trivial

@[simp]
theorem shaped_array {α : Type} {items : JsonSchema} {values : List α} {f : α → JsonValue} :
    Shaped place (.array items) (.array (values.map f)) ↔
      ∀ value ∈ values, Shaped place items (f value) :=
  List.forall_mem_map

@[simp]
theorem shaped_numberArray {check : ℚ → Bool} {values : List ℚ} :
    Shaped place (.array (.number check)) (numberArray values) := by
  rw [numberArray, shaped_array]
  exact fun _ _ => trivial

@[simp]
theorem shaped_record {record : JsonRecord} :
    Shaped arrayIndex .record (.object record.fields) :=
  record.arranged

@[simp]
theorem shaped_recordOrNull {record : Option JsonRecord} :
    Shaped arrayIndex (.nullable .record) (recordOrNull record) := by
  cases record with
  | none => exact .inl rfl
  | some record => exact .inr record.arranged

@[simp]
theorem shapedFields_cons {key name : String} {schema : JsonSchema} {value : JsonValue}
    {shape : List (String × JsonSchema)} {fields : List (String × JsonValue)} :
    ShapedFields place ((key, schema) :: shape) ((name, value) :: fields) ↔
      key = name ∧ Shaped place schema value ∧ ShapedFields place shape fields :=
  Iff.rfl

@[simp]
theorem shaped_object {shape : List (String × JsonSchema)} {fields : List (String × JsonValue)} :
    Shaped place (.object shape) (.object fields) ↔ ShapedFields place shape fields :=
  Iff.rfl

@[simp]
theorem shapedFields_nil : ShapedFields (ν := ℚ) place [] [] :=
  trivial

theorem shaped_toCardViews {value : Option JsonValue} :
    Shaped place (.array HoldemCardViewSchema) (toCardViews value) := by
  have hcard : ∀ card view, toCardView card = some view →
      Shaped place HoldemCardViewSchema view := by
    intro card view h
    unfold toCardView at h
    dsimp only at h
    split at h
    · split_ifs at h
      obtain rfl := Option.some.inj h
      simp [HoldemCardViewSchema, enumText, Shaped]
    · exact nomatch h
  unfold toCardViews
  split
  · intro view hview
    obtain ⟨card, -, hcardView⟩ := List.mem_filterMap.mp hview
    exact hcard card view hcardView
  · exact List.forall_mem_nil _

theorem shaped_toReplayPots {value : Option JsonValue} :
    Shaped place (.array HoldemReplayPotSchema) (toReplayPots value) := by
  have hpot : ∀ pot view, toReplayPot pot = some view →
      Shaped place HoldemReplayPotSchema view := by
    intro pot view h
    unfold toReplayPot at h
    dsimp only at h
    split at h
    · split_ifs at h
      obtain rfl := Option.some.inj h
      simp [HoldemReplayPotSchema, enumText, anyText, nonnegativeInteger]
    · exact nomatch h
  unfold toReplayPots
  split
  · intro view hview
    obtain ⟨pot, -, hpotView⟩ := List.mem_filterMap.mp hview
    exact hpot pot view hpotView
  · exact List.forall_mem_nil _

theorem shaped_replayParticipant {value : Option JsonValue} :
    ∀ participant ∈ toReplayParticipants value,
      Shaped place HoldemReplayParticipantSchema participant.toJson := by
  intro participant hparticipant
  unfold toReplayParticipants at hparticipant
  split at hparticipant
  · rw [List.mem_mergeSort, List.mem_filterMap] at hparticipant
    obtain ⟨source, -, hsource⟩ := hparticipant
    obtain ⟨seatIndex, -, rfl⟩ := Option.map_eq_some_iff.mp hsource
    simp [ReplayParticipant.toJson, HoldemReplayParticipantSchema, anyText, nonnegativeInteger,
      positiveInteger, shaped_toCardViews]
  · exact nomatch hparticipant

theorem shaped_replayEvent {event : HandHistoryEvent} :
    Shaped place HoldemReplayEventSchema (toReplayEvent event).toJson := by
  simp [ReplayEvent.toJson, toReplayEvent, HoldemReplayEventSchema, anyText, nonnegativeInteger,
    positiveInteger, shortText, HandHistoryEventActorSchema, enumText, shaped_toCardViews,
    shaped_toReplayPots]
  exact shaped_replayParticipant

section Documents

variable {history : HandHistory} {replay : ReplayData} {exportedAt : String}

theorem shaped_replayData (h : buildHoldemReplayData history = some replay) :
    Shaped place HoldemReplayDataSchema replay.toJson := by
  unfold buildHoldemReplayData at h
  split_ifs at h
  obtain rfl := Option.some.inj h
  simp [ReplayData.toJson, HoldemReplayDataSchema, anyText, nonnegativeInteger, positiveInteger,
    shortText, HandHistoryRoundIdSchema, shaped_toCardViews, shaped_toReplayPots,
    shaped_replayEvent]
  exact shaped_replayParticipant

theorem shaped_disputePayload {payload : JsonValue}
    (h : buildHoldemDisputePayload history exportedAt = some payload) :
    Shaped place HoldemDisputePayloadSchema payload := by
  obtain ⟨replay, hreplay, rfl⟩ := Option.map_eq_some_iff.mp h
  have hpots : Shaped place (.array HoldemReplayPotSchema) replay.pots := by
    unfold buildHoldemReplayData at hreplay
    split_ifs at hreplay
    obtain rfl := Option.some.inj hreplay
    exact shaped_toReplayPots
  simp [HoldemDisputePayloadSchema, anyText, nonnegativeInteger, positiveInteger, shortText,
    enumText, HandHistoryRoundIdSchema, HandHistoryEventActorSchema, numberOfLength, hpots,
    disputeParticipant, disputeParticipantSchema, disputeEvent, disputeEventSchema,
    toReplayTableEvent, disputeTableEventSchema]

theorem shaped_handEvidence {properties : JsonRecord → JsonRecord} {evidence : JsonValue}
    (h : buildHoldemHandEvidence properties history exportedAt = some evidence) :
    Shaped arrayIndex HoldemHandEvidenceSchema evidence := by
  unfold buildHoldemHandEvidence at h
  split at h
  · rename_i replay payload hreplay hpayload
    obtain rfl := Option.some.inj h
    simp [HoldemHandEvidenceSchema, anyText, enumText, shaped_replayData hreplay,
      shaped_disputePayload hpayload, evidenceHistory, evidenceHistorySchema, positiveInteger,
      nonnegativeInteger, shortText, HandHistoryRoundIdSchema, HandHistoryRoundTypeSchema,
      HandHistoryEventActorSchema, HandHistoryEventPayloadSchema, historyEvent,
      evidenceEventSchema, historyTableEvent, evidenceTableEventSchema]
  · exact nomatch h

theorem shaped_summaryPage {numbers : NumberText ℚ} :
    Shaped place HoldemEvidenceSummaryPageSchema
      (buildSummaryPage numbers history replay exportedAt) := by
  simp [buildSummaryPage, HoldemEvidenceSummaryPageSchema, nonEmptyText, anyText,
    HoldemEvidenceSummaryEntrySchema]

end Documents

end Shapes

/-! ## What is read back -/

/-- A bundle that comes back as JSON, with the keys of its objects in some order. -/
structure ReadBack (bundle reread : SignedEvidenceBundle) : Prop where
  content : reread.unsignedPayload.SameContent bundle.unsignedPayload
  arranged : reread.unsignedPayload.AllObjects (Json.Arranged arrayIndex)
  signature : reread.signature = bundle.signature

def HandHistory.records (history : HandHistory) : List JsonRecord :=
  history.fairness.toList ++ history.summary.toList ++
    history.events.map HandHistoryEvent.payload ++
    history.tableEvents.map TableHistoryEvent.payload

def exportedDocuments (numbers : NumberText ℚ) (history : HandHistory) (exportedAt : String) :
    List JsonValue :=
  ((buildHoldemReplayData history).map fun replay =>
      buildSummaryPage numbers history replay exportedAt).toList ++
    (buildHoldemDisputePayload history exportedAt).toList ++
    (buildHoldemHandEvidence toSerializableRecord history exportedAt).toList

/-- No two keys of an exported object are tied, unless one of them has a fixed place, and the schema
finds nothing on a record but its own properties. -/
structure KeysSeparated (runtime : EvidenceRuntime) (history : HandHistory) (exportedAt : String) :
    Prop where
  untied : ∀ document ∈ exportedDocuments runtime.numbers history exportedAt,
    document.AllObjects (Json.Untied runtime.localeCompare arrayIndex)
  records : ∀ record ∈ history.records, ∀ field ∈ (runtime.recordProperties record).fields,
    field ∈ (toSerializableRecord record).fields

section Records

variable {order : Collation} {properties others : JsonRecord → JsonRecord}

theorem recordOrNull_sortKeys {record : Option JsonRecord} :
    (recordOrNull (record.map properties)).sortKeys order =
        (recordOrNull (record.map others)).sortKeys order ↔
      ∀ part ∈ record.toList, (Json.object (properties part).fields).sortKeys order =
        (Json.object (others part).fields).sortKeys order := by
  cases record with
  | none => simp [recordOrNull]
  | some record => simp [recordOrNull]

theorem historyEvent_sortKeys {event : HandHistoryEvent} :
    (historyEvent properties event).sortKeys order = (historyEvent others event).sortKeys order ↔
      (Json.object (properties event.payload).fields).sortKeys order =
        (Json.object (others event.payload).fields).sortKeys order := by
  rw [historyEvent, historyEvent, Json.sortKeys_object_inj (by simp) (by simp)]
  simp only [List.map_cons, List.map_nil, List.cons.injEq, true_and, and_true]

theorem historyTableEvent_sortKeys {event : TableHistoryEvent} :
    (historyTableEvent properties event).sortKeys order =
        (historyTableEvent others event).sortKeys order ↔
      (Json.object (properties event.payload).fields).sortKeys order =
        (Json.object (others event.payload).fields).sortKeys order := by
  rw [historyTableEvent, historyTableEvent, Json.sortKeys_object_inj (by simp) (by simp)]
  simp only [List.map_cons, List.map_nil, List.cons.injEq, true_and, and_true]

theorem evidenceHistory_sortKeys {history : HandHistory} :
    (evidenceHistory properties history).sortKeys order =
        (evidenceHistory others history).sortKeys order ↔
      ∀ record ∈ history.records, (Json.object (properties record).fields).sortKeys order =
        (Json.object (others record).fields).sortKeys order := by
  rw [evidenceHistory, evidenceHistory, Json.sortKeys_object_inj (by simp) (by simp)]
  simp only [List.map_cons, List.map_nil, List.cons.injEq, true_and, and_true,
    recordOrNull_sortKeys, Json.sortKeys_array, List.map_map, Json.array.injEq,
    List.map_inj_left, Function.comp_apply, historyEvent_sortKeys, historyTableEvent_sortKeys,
    HandHistory.records, List.forall_mem_append, List.forall_mem_map, and_assoc]

end Records

section Evidence

variable {runtime : EvidenceRuntime} {history : HandHistory} {exportedAt : String}

theorem recordProperties_sameContent {record : JsonRecord} :
    (Json.object (runtime.recordProperties record).fields).SameContent
        (.object (toSerializableRecord record).fields) ↔
      ∀ field ∈ (runtime.recordProperties record).fields,
        field ∈ (toSerializableRecord record).fields := by
  have hown := runtime.recordProperties_own record
  have hunique := (Json.allObjects_object.mp (runtime.recordProperties record).arranged).1.1
  have hownUnique := (Json.allObjects_object.mp (toSerializableRecord record).arranged).1.1
  constructor
  · intro h field hfield
    rw [Json.SameContent, Json.sortKeys_object, Json.sortKeys_object, Json.object.injEq] at h
    have hperm := ((Collation.sort_perm.symm.trans (.of_eq h)).trans Collation.sort_perm).map
      Prod.fst
    rw [Collation.map_fst_map, Collation.map_fst_map] at hperm
    obtain ⟨own, hownMem, hkey⟩ := List.mem_map.mp (hperm.subset (List.mem_map_of_mem hfield))
    rwa [Collation.eq_of_mem_of_fst_eq hunique hfield (hown own hownMem) hkey.symm]
  · intro h
    have hperm : (runtime.recordProperties record).fields.Perm (toSerializableRecord record).fields :=
      (List.perm_ext_iff_of_nodup (List.Nodup.of_map _ hunique)
        (List.Nodup.of_map _ hownUnique)).mpr fun field => ⟨h field, hown field⟩
    rw [Json.SameContent, Json.sortKeys_object, Json.sortKeys_object]
    refine congrArg _ (Collation.sort_eq_of_perm Collation.codePoints_strict ?_ (hperm.map _))
    rw [Collation.map_fst_map]
    exact hownUnique

/-- The parsed evidence has the content of the signed one if and only if the schema finds nothing on
the records but their own properties. -/
theorem evidence_sameContent {evidence parsedEvidence : JsonValue}
    (hevidence : buildHoldemHandEvidence toSerializableRecord history exportedAt = some evidence)
    (hparsed : buildHoldemHandEvidence runtime.recordProperties history exportedAt =
      some parsedEvidence) :
    parsedEvidence.SameContent evidence ↔
      ∀ record ∈ history.records, ∀ field ∈ (runtime.recordProperties record).fields,
        field ∈ (toSerializableRecord record).fields := by
  unfold buildHoldemHandEvidence at hevidence hparsed
  cases hreplay : buildHoldemReplayData history with
  | none =>
      rw [hreplay] at hevidence
      exact nomatch hevidence
  | some replay =>
      cases hpayload : buildHoldemDisputePayload history exportedAt with
      | none =>
          rw [hreplay, hpayload] at hevidence
          exact nomatch hevidence
      | some payload =>
          rw [hreplay, hpayload] at hevidence hparsed
          obtain rfl := Option.some.inj hevidence
          obtain rfl := Option.some.inj hparsed
          rw [Json.SameContent, Json.sortKeys_object_inj (by simp) (by simp)]
          simp only [List.map_cons, List.map_nil, List.cons.injEq, true_and, and_true,
            evidenceHistory_sortKeys]
          exact forall₂_congr fun record _ => recordProperties_sameContent

end Evidence

section Bundles

variable {runtime : EvidenceRuntime} {env : SigningEnvironment} {history : HandHistory}
  {exportedAt : String} {bundle reread : SignedEvidenceBundle}

theorem parseSignedEvidenceBundle_eq {parsed : SignedEvidenceBundle}
    (hpage : Shaped arrayIndex HoldemEvidenceSummaryPageSchema bundle.summaryPage)
    (hpayload : Shaped arrayIndex HoldemDisputePayloadSchema bundle.disputePayload)
    (hevidence : Shaped arrayIndex HoldemHandEvidenceSchema bundle.evidence)
    (h : parseSignedEvidenceBundle bundle = some parsed) : parsed = bundle := by
  unfold parseSignedEvidenceBundle at h
  obtain ⟨-, -, h⟩ := Option.bind_eq_some_iff.mp h
  obtain ⟨-, -, h⟩ := Option.bind_eq_some_iff.mp h
  obtain ⟨-, -, h⟩ := Option.bind_eq_some_iff.mp h
  obtain ⟨page, hparsedPage, h⟩ := Option.bind_eq_some_iff.mp h
  obtain ⟨payload, hparsedPayload, h⟩ := Option.bind_eq_some_iff.mp h
  obtain ⟨evidence, hparsedEvidence, h⟩ := Option.bind_eq_some_iff.mp h
  obtain ⟨signature, hsignature, h⟩ := Option.bind_eq_some_iff.mp h
  obtain rfl := parse_eq _ summaryPageSchema_wellKeyed hpage hparsedPage
  obtain rfl := parse_eq _ disputePayloadSchema_wellKeyed hpayload hparsedPayload
  obtain rfl := parse_eq _ handEvidenceSchema_wellKeyed hevidence hparsedEvidence
  unfold parseSignature at hsignature
  split_ifs at hsignature
  rw [← Option.some.inj h, ← Option.some.inj hsignature]

theorem parseSignedEvidenceBundle_eq_some {page payload evidence : JsonValue}
    (hversion : bundle.schemaVersion = "holdem_signed_evidence_bundle_v1")
    (hround : isRoundId bundle.roundId) (hreference : isPositiveInteger bundle.referenceId)
    (hpage : HoldemEvidenceSummaryPageSchema.parse bundle.summaryPage = some page)
    (hpayload : HoldemDisputePayloadSchema.parse bundle.disputePayload = some payload)
    (hevidence : HoldemHandEvidenceSchema.parse bundle.evidence = some evidence)
    (hsignature : parseSignature bundle.signature = some bundle.signature) :
    parseSignedEvidenceBundle bundle = some
      { bundle with summaryPage := page, disputePayload := payload, evidence := evidence } := by
  simp only [parseSignedEvidenceBundle, hversion, hround, hreference, hpage, hpayload, hevidence,
    hsignature, guard, if_true]
  rfl

theorem build_cases
    (h : runtime.buildHoldemSignedEvidenceBundle env history exportedAt = .ok bundle) :
    ∃ replay evidence secret, buildHoldemReplayData history = some replay ∧
      bundle.summaryPage = buildSummaryPage runtime.numbers history replay exportedAt ∧
      buildHoldemDisputePayload history exportedAt = some bundle.disputePayload ∧
      buildHoldemHandEvidence toSerializableRecord history exportedAt = some evidence ∧
      buildHoldemHandEvidence runtime.recordProperties history exportedAt = some bundle.evidence ∧
      env.getEvidenceSigningSecret = .ok secret ∧
      bundle.signature.payloadDigest = runtime.sha256
        (runtime.canonicalizeJson { bundle with evidence }.unsignedPayload) ∧
      bundle.signature.signature = runtime.hmacText secret
        (runtime.canonicalizeJson { bundle with evidence }.unsignedPayload) := by
  unfold EvidenceRuntime.buildHoldemSignedEvidenceBundle at h
  split at h
  · rename_i replay payload evidence parsedEvidence hreplay hpayload hevidence hparsed
    obtain ⟨signature, hsignature, h⟩ := ApiError.bind_eq_ok.mp h
    obtain ⟨secret, hsecret, hsigned⟩ := ApiError.bind_eq_ok.mp hsignature
    obtain rfl := Except.ok.inj hsigned
    dsimp only at h
    split at h
    · rename_i parsed hparse
      obtain rfl := parseSignedEvidenceBundle_eq shaped_summaryPage
        (shaped_disputePayload hpayload) (shaped_handEvidence hparsed) hparse
      obtain rfl := Except.ok.inj h
      exact ⟨replay, evidence, secret, hreplay, rfl, hpayload, hevidence, hparsed, hsecret, rfl, rfl⟩
    · exact nomatch h
  · exact nomatch h

theorem build_eq {replay : ReplayData} {disputePayload evidence parsedEvidence : JsonValue}
    {signature : EvidenceBundleSignature} (hreplay : buildHoldemReplayData history = some replay)
    (hpayload : buildHoldemDisputePayload history exportedAt = some disputePayload)
    (hevidence : buildHoldemHandEvidence toSerializableRecord history exportedAt = some evidence)
    (hparsed : buildHoldemHandEvidence runtime.recordProperties history exportedAt =
      some parsedEvidence)
    (hsignature : runtime.createEvidenceBundleSignature env
      (SignedEvidenceBundle.unsignedPayload
        ⟨"holdem_signed_evidence_bundle_v1", history.roundId, history.referenceId, exportedAt,
          buildSummaryPage runtime.numbers history replay exportedAt, disputePayload, evidence,
          ⟨"", "", "", ""⟩⟩) = .ok signature)
    (hbundle : parseSignedEvidenceBundle
      ⟨"holdem_signed_evidence_bundle_v1", history.roundId, history.referenceId, exportedAt,
        buildSummaryPage runtime.numbers history replay exportedAt, disputePayload, parsedEvidence,
        signature⟩ = some bundle) :
    runtime.buildHoldemSignedEvidenceBundle env history exportedAt = .ok bundle := by
  rw [EvidenceRuntime.buildHoldemSignedEvidenceBundle, hreplay, hpayload, hevidence, hparsed]
  dsimp only [bind, Except.bind]
  rw [hsignature]
  dsimp only
  rw [hbundle]
  rfl

theorem toVerificationBuffer_hmacText {secret payload : String} :
    EvidenceRuntime.toVerificationBuffer (runtime.hmacText secret payload) =
      runtime.hmac secret payload := by
  rw [EvidenceRuntime.toVerificationBuffer, EvidenceRuntime.hmacText, String.toList_ofList,
    HexText.decode_encode]

theorem canonicalizeJson_eq_iff {value other : JsonValue} :
    runtime.canonicalizeJson value = runtime.canonicalizeJson other ↔
      value.sortKeys runtime.localeCompare = other.sortKeys runtime.localeCompare := by
  rw [EvidenceRuntime.canonicalizeJson, EvidenceRuntime.canonicalizeJson, String.ofList_inj,
    Json.canonical_eq_print, Json.canonical_eq_print]
  exact Json.print_injective.eq_iff

theorem verify_eq_true {secret : String} (hsecret : env.getEvidenceSigningSecret = .ok secret) :
    runtime.verifyHoldemSignedEvidenceBundle env bundle = .ok true ↔
      bundle.signature.payloadDigest =
          runtime.sha256 (runtime.canonicalizeJson bundle.unsignedPayload) ∧
        EvidenceRuntime.toVerificationBuffer bundle.signature.signature =
          runtime.hmac secret (runtime.canonicalizeJson bundle.unsignedPayload) := by
  unfold EvidenceRuntime.verifyHoldemSignedEvidenceBundle
  rw [hsecret]
  simp only [bind, Except.bind, pure, Except.pure, toVerificationBuffer_hmacText, Except.ok.injEq,
    decide_eq_true_eq]
  refine and_congr_right fun _ => ⟨And.right, fun h => ⟨?_, h⟩⟩
  rw [h]

theorem unsignedPayload_sortKeys {order : Collation} :
    reread.unsignedPayload.sortKeys order = bundle.unsignedPayload.sortKeys order ↔
      (reread.schemaVersion = bundle.schemaVersion ∧ reread.roundId = bundle.roundId ∧
        reread.referenceId = bundle.referenceId ∧ reread.exportedAt = bundle.exportedAt) ∧
      reread.summaryPage.sortKeys order = bundle.summaryPage.sortKeys order ∧
      reread.disputePayload.sortKeys order = bundle.disputePayload.sortKeys order ∧
      reread.evidence.sortKeys order = bundle.evidence.sortKeys order := by
  rw [SignedEvidenceBundle.unsignedPayload, SignedEvidenceBundle.unsignedPayload,
    Json.sortKeys_object_inj (by simp) (by simp)]
  simp [Json.sortKeys, Json.fold, and_assoc]

theorem unsignedPayload_arranged :
    bundle.unsignedPayload.AllObjects (Json.Arranged arrayIndex) ↔
      bundle.summaryPage.AllObjects (Json.Arranged arrayIndex) ∧
      bundle.disputePayload.AllObjects (Json.Arranged arrayIndex) ∧
      bundle.evidence.AllObjects (Json.Arranged arrayIndex) := by
  have hkeys : Json.Arranged arrayIndex ["schemaVersion", "roundId", "referenceId", "exportedAt",
      "summaryPage", "disputePayload", "evidence"] :=
    Json.arranged_of_unplaced (by decide) (by decide +kernel)
  have hscalar : ∀ value : JsonValue, value.IsScalar →
      value.AllObjects (Json.Arranged arrayIndex) := fun _ => Json.allObjects_scalar
  rw [SignedEvidenceBundle.unsignedPayload, Json.allObjects_object]
  simp [hkeys, hscalar (.string _) trivial, hscalar (.number _) trivial]

/-- A bundle with the signature of a built one is accepted if and only if it is sorted to what was
signed. -/
theorem accepted_iff {evidence : JsonValue} {secret : String}
    (hsecret : env.getEvidenceSigningSecret = .ok secret)
    (hdigest : bundle.signature.payloadDigest = runtime.sha256
      (runtime.canonicalizeJson { bundle with evidence }.unsignedPayload))
    (hsignature : bundle.signature.signature = runtime.hmacText secret
      (runtime.canonicalizeJson { bundle with evidence }.unsignedPayload))
    (hsame : reread.signature = bundle.signature) :
    runtime.verifyHoldemSignedEvidenceBundle env reread = .ok true ↔
      reread.unsignedPayload.sortKeys runtime.localeCompare =
        { bundle with evidence }.unsignedPayload.sortKeys runtime.localeCompare := by
  rw [verify_eq_true hsecret, hsame, hdigest, hsignature, toVerificationBuffer_hmacText,
    (runtime.hmac_injective secret).eq_iff, ← canonicalizeJson_eq_iff]
  exact ⟨fun h => h.2.symm, fun h => ⟨congrArg _ h.symm, h.symm⟩⟩

/-- A built bundle was signed with this evidence, which the schema has parsed. -/
structure SignedWith (runtime : EvidenceRuntime) (env : SigningEnvironment) (history : HandHistory)
    (exportedAt : String) (bundle : SignedEvidenceBundle) (signed : JsonValue) : Prop where
  bundle_arranged : bundle.unsignedPayload.AllObjects (Json.Arranged arrayIndex)
  signed_arranged : signed.AllObjects (Json.Arranged arrayIndex)
  documents : exportedDocuments runtime.numbers history exportedAt =
    [bundle.summaryPage, bundle.disputePayload, signed]
  parsed : bundle.evidence.SameContent signed ↔
    ∀ record ∈ history.records, ∀ field ∈ (runtime.recordProperties record).fields,
      field ∈ (toSerializableRecord record).fields
  accepted : ∀ reread : SignedEvidenceBundle, reread.signature = bundle.signature →
    (runtime.verifyHoldemSignedEvidenceBundle env reread = .ok true ↔
      reread.unsignedPayload.sortKeys runtime.localeCompare =
        { bundle with evidence := signed }.unsignedPayload.sortKeys runtime.localeCompare)

theorem exists_signedWith
    (h : runtime.buildHoldemSignedEvidenceBundle env history exportedAt = .ok bundle) :
    ∃ signed, SignedWith runtime env history exportedAt bundle signed := by
  obtain ⟨replay, evidence, secret, hreplay, hpage, hpayload, hevidence, hparsed, hsecret, hdigest,
    hsignature⟩ := build_cases h
  have hpageShaped : Shaped arrayIndex HoldemEvidenceSummaryPageSchema bundle.summaryPage :=
    hpage ▸ shaped_summaryPage
  refine ⟨evidence, ?_, ?_, ?_, evidence_sameContent hevidence hparsed, fun reread hsame =>
    accepted_iff hsecret hdigest hsignature hsame⟩
  · rw [unsignedPayload_arranged]
    exact ⟨arranged_of_shaped _ summaryPageSchema_wellKeyed hpageShaped,
      arranged_of_shaped _ disputePayloadSchema_wellKeyed (shaped_disputePayload hpayload),
      arranged_of_shaped _ handEvidenceSchema_wellKeyed (shaped_handEvidence hparsed)⟩
  · exact arranged_of_shaped _ handEvidenceSchema_wellKeyed (shaped_handEvidence hevidence)
  · rw [exportedDocuments, hreplay, hpayload, hevidence, hpage]
    rfl

/-- Bundles built from a history: each reading back is accepted, and bundles that are accepted with
one signature have the same content. -/
structure BundleHolds (runtime : EvidenceRuntime) (env : SigningEnvironment)
    (bundle : SignedEvidenceBundle) : Prop where
  accepted : ∀ reread, ReadBack bundle reread →
    runtime.verifyHoldemSignedEvidenceBundle env reread = .ok true
  determined : ∀ first second : SignedEvidenceBundle,
    first.unsignedPayload.AllObjects (Json.Arranged arrayIndex) →
    second.unsignedPayload.AllObjects (Json.Arranged arrayIndex) →
    runtime.verifyHoldemSignedEvidenceBundle env first = .ok true →
    runtime.verifyHoldemSignedEvidenceBundle env second = .ok true →
    first.signature.signature = second.signature.signature →
      second.unsignedPayload.SameContent first.unsignedPayload

theorem sameContent_of_signature {first second : SignedEvidenceBundle}
    (hfirst : first.unsignedPayload.AllObjects (Json.Arranged arrayIndex))
    (hsecond : second.unsignedPayload.AllObjects (Json.Arranged arrayIndex))
    (hacceptedFirst : runtime.verifyHoldemSignedEvidenceBundle env first = .ok true)
    (hacceptedSecond : runtime.verifyHoldemSignedEvidenceBundle env second = .ok true)
    (h : first.signature.signature = second.signature.signature) :
    second.unsignedPayload.SameContent first.unsignedPayload := by
  obtain ⟨secret, hsecret, -⟩ := ApiError.bind_eq_ok.mp hacceptedFirst
  have hhmac := ((verify_eq_true hsecret).mp hacceptedFirst).2
  rw [h, ((verify_eq_true hsecret).mp hacceptedSecond).2] at hhmac
  exact Json.sameContent_of_sortKeys_eq (Json.uniqueKeys_of_arranged hfirst)
    (Json.uniqueKeys_of_arranged hsecond)
    (canonicalizeJson_eq_iff.mp (runtime.hmac_injective secret hhmac))

theorem accepted_of_keysSeparated {signed : JsonValue}
    (hsigned : SignedWith runtime env history exportedAt bundle signed)
    (h : KeysSeparated runtime history exportedAt) (hread : ReadBack bundle reread) :
    runtime.verifyHoldemSignedEvidenceBundle env reread = .ok true := by
  have huntied := h.untied
  rw [hsigned.documents] at huntied
  obtain ⟨hscalars, hpage, hpayload, hevidence⟩ := unsignedPayload_sortKeys.mp hread.content
  obtain ⟨harrangedPage, harrangedPayload, harrangedEvidence⟩ :=
    unsignedPayload_arranged.mp hread.arranged
  obtain ⟨hbundlePage, hbundlePayload, -⟩ := unsignedPayload_arranged.mp hsigned.bundle_arranged
  have hsame : reread.evidence.SameContent signed :=
    hevidence.trans (hsigned.parsed.mpr h.records)
  rw [hsigned.accepted reread hread.signature, unsignedPayload_sortKeys]
  exact ⟨hscalars,
    Json.sortKeys_eq_of_sameContent hbundlePage harrangedPage (huntied _ (by simp)) hpage,
    Json.sortKeys_eq_of_sameContent hbundlePayload harrangedPayload (huntied _ (by simp)) hpayload,
    Json.sortKeys_eq_of_sameContent hsigned.signed_arranged harrangedEvidence
      (huntied _ (by simp)) hsame⟩

theorem keysSeparated_of_accepted {signed : JsonValue}
    (hsigned : SignedWith runtime env history exportedAt bundle signed)
    (h : ∀ reread, ReadBack bundle reread →
      runtime.verifyHoldemSignedEvidenceBundle env reread = .ok true) :
    KeysSeparated runtime history exportedAt := by
  obtain ⟨hpage, hpayload, hevidence⟩ := unsignedPayload_arranged.mp hsigned.bundle_arranged
  have hsorted : ∀ summaryPage disputePayload evidence : JsonValue,
      summaryPage.AllObjects (Json.Arranged arrayIndex) →
      disputePayload.AllObjects (Json.Arranged arrayIndex) →
      evidence.AllObjects (Json.Arranged arrayIndex) →
      summaryPage.SameContent bundle.summaryPage →
      disputePayload.SameContent bundle.disputePayload →
      evidence.SameContent bundle.evidence →
        summaryPage.sortKeys runtime.localeCompare =
            bundle.summaryPage.sortKeys runtime.localeCompare ∧
          disputePayload.sortKeys runtime.localeCompare =
            bundle.disputePayload.sortKeys runtime.localeCompare ∧
          evidence.sortKeys runtime.localeCompare = signed.sortKeys runtime.localeCompare := by
    intro summaryPage disputePayload evidence hp hd he hpageSame hpayloadSame hevidenceSame
    have haccepted := h { bundle with summaryPage, disputePayload, evidence }
      ⟨unsignedPayload_sortKeys.mpr ⟨⟨rfl, rfl, rfl, rfl⟩, hpageSame, hpayloadSame, hevidenceSame⟩,
        unsignedPayload_arranged.mpr ⟨hp, hd, he⟩, rfl⟩
    exact (unsignedPayload_sortKeys.mp
      ((hsigned.accepted { bundle with summaryPage, disputePayload, evidence } rfl).mp haccepted)).2
  have hparsed : bundle.evidence.SameContent signed :=
    Json.sameContent_of_sortKeys_eq (Json.uniqueKeys_of_arranged hsigned.signed_arranged)
      (Json.uniqueKeys_of_arranged hevidence)
      (hsorted _ _ _ hpage hpayload hevidence rfl rfl rfl).2.2
  refine ⟨?_, hsigned.parsed.mp hparsed⟩
  rw [hsigned.documents]
  simp only [List.forall_mem_cons]
  refine ⟨Json.untied_of_sortKeys_eq hpage fun other hother hsame =>
      (hsorted other _ _ hother hpayload hevidence hsame rfl rfl).1,
    Json.untied_of_sortKeys_eq hpayload fun other hother hsame =>
      (hsorted _ other _ hpage hother hevidence rfl hsame rfl).2.1,
    Json.untied_of_sortKeys_eq hsigned.signed_arranged fun other hother hsame =>
      (hsorted _ _ other hpage hpayload hother rfl rfl (hsame.trans hparsed.symm)).2.2,
    List.forall_mem_nil _⟩

theorem KeysSeparated.record {signed : JsonValue} (h : KeysSeparated runtime history exportedAt)
    (hsigned : buildHoldemHandEvidence toSerializableRecord history exportedAt = some signed)
    {record : JsonRecord} (hrecord : history.summary = some record) :
    Json.Untied runtime.localeCompare arrayIndex
      ((toSerializableRecord record).fields.map Prod.fst) := by
  have huntied := h.untied signed (by simp [exportedDocuments, hsigned])
  unfold buildHoldemHandEvidence at hsigned
  split at hsigned
  · obtain rfl := Option.some.inj hsigned
    have hhistory := (Json.allObjects_object.mp huntied).2
      ("history", evidenceHistory toSerializableRecord history) (by simp)
    have hsummary := (Json.allObjects_object.mp hhistory).2
      ("summary", recordOrNull (history.summary.map toSerializableRecord)) (by simp)
    rw [hrecord] at hsummary
    exact (Json.allObjects_object.mp hsummary).1
  · exact nomatch hsigned

/-- A built bundle is accepted in every order of its keys if and only if the keys are separated. -/
theorem bundleHolds_iff
    (h : runtime.buildHoldemSignedEvidenceBundle env history exportedAt = .ok bundle) :
    BundleHolds runtime env bundle ↔ KeysSeparated runtime history exportedAt := by
  obtain ⟨signed, hsigned⟩ := exists_signedWith h
  exact ⟨fun hholds => keysSeparated_of_accepted hsigned hholds.accepted, fun hseparated =>
    ⟨fun _ => accepted_of_keysSeparated hsigned hseparated,
      fun _ _ => sameContent_of_signature⟩⟩

end Bundles

/-! ## Texts that are not empty -/

section Texts

variable {numbers : NumberText ℚ} {history : HandHistory} {replay : ReplayData}
  {exportedAt front back : String}

theorem textLength_append :
    textLength (front ++ back) = textLength front + textLength back := by
  rw [textLength, String.toList_append, List.map_append, List.sum_append]
  rfl

theorem parse_nonEmptyText {value : String} (h : 0 < textLength value) :
    nonEmptyText.parse (Json.string value) = some (Json.string value) :=
  if_pos (decide_eq_true h)

theorem mapM_parse {α : Type} {schema : JsonSchema} {f : α → JsonValue} {items : List α}
    (h : ∀ item ∈ items, schema.parse (f item) = some (f item)) :
    items.mapM (schema.parse ∘ f) = some (items.map f) := by
  induction items with
  | nil => rfl
  | cons item items ih =>
      rw [List.mapM_cons, Function.comp_apply, h item List.mem_cons_self,
        ih fun other hother => h other (List.mem_cons_of_mem _ hother)]
      rfl

theorem parse_summaryPage
    (hoverview : ∀ entry ∈ overview numbers history replay,
      0 < textLength entry.1 ∧ 0 < textLength entry.2)
    (hhighlights : ∀ text ∈ highlights numbers history replay, 0 < textLength text) :
    HoldemEvidenceSummaryPageSchema.parse (buildSummaryPage numbers history replay exportedAt) =
      some (buildSummaryPage numbers history replay exportedAt) := by
  have htitle : 0 < textLength "Hold'em Evidence Summary" := by decide +kernel
  have hsubtitle :
      0 < textLength (handLabel numbers replay ++ " · " ++ tableLabel numbers replay) := by
    have hdot : 0 < textLength " · " := by decide +kernel
    rw [textLength_append, textLength_append]
    omega
  have hmarkdown : 0 < textLength (markdown numbers history replay) := by
    have hheading : 0 < textLength "# Hold'em Evidence Summary" := by decide +kernel
    simp only [markdown, List.cons_append, String.intercalate_cons_cons, String.append_assoc]
    rw [textLength_append]
    omega
  have hentries := @mapM_parse _ HoldemEvidenceSummaryEntrySchema
    (fun entry : String × String => .object [("label", .string entry.1), ("value", .string entry.2)])
    (overview numbers history replay) fun entry hentry => by
      obtain ⟨hlabel, hvalue⟩ := hoverview entry hentry
      simp [HoldemEvidenceSummaryEntrySchema, Schema.parse, parseShape, parse_nonEmptyText hlabel,
        parse_nonEmptyText hvalue]
  have htexts := mapM_parse fun text htext => parse_nonEmptyText (hhighlights text htext)
  simp [HoldemEvidenceSummaryPageSchema, buildSummaryPage, Schema.parse, parseShape, hentries,
    htexts, parse_nonEmptyText htitle, parse_nonEmptyText hsubtitle, parse_nonEmptyText hmarkdown]
  rfl

end Texts

/-! ## Keys that are written in two ways -/

section Samples

/-- A number that is not an integer is written with its denominator. -/
def sampleNumberText (value : ℚ) : List Char :=
  DecimalText.print 0 value.num ++ if value.den = 1 then [] else 'e' :: Nat.toDigits 10 value.den

theorem mem_print_integer {n : Int} {c : Char} (h : c ∈ DecimalText.print 0 n) :
    c.isDigit = true ∨ c = '-' := by
  have hdigits : ∀ m, c ∈ DecimalText.printUnsigned 0 m → c.isDigit = true := by
    intro m hm
    rw [DecimalText.printUnsigned, if_pos rfl, List.append_nil] at hm
    exact Nat.isDigit_of_mem_toDigits (by decide) (by decide) hm
  rw [DecimalText.print] at h
  split_ifs at h
  · rcases List.mem_cons.mp h with rfl | h
    · exact .inr rfl
    · exact .inl (hdigits _ h)
  · exact .inl (hdigits _ h)

theorem sampleNumberText_injective : Function.Injective sampleNumberText := by
  have hsplit : ∀ value, (sampleNumberText value).span (· ≠ 'e') =
      (DecimalText.print 0 value.num,
        if value.den = 1 then [] else 'e' :: Nat.toDigits 10 value.den) := by
    intro value
    have hprint : ∀ c ∈ DecimalText.print 0 value.num, decide (c ≠ 'e') = true := by
      intro c hc
      rcases mem_print_integer hc with hdigit | rfl
      · refine decide_eq_true fun he => ?_
        rw [he] at hdigit
        exact absurd hdigit (by decide)
      · decide
    rw [sampleNumberText, List.span_eq_takeWhile_dropWhile, List.takeWhile_append_of_pos hprint,
      List.dropWhile_append_of_pos hprint]
    split_ifs <;> simp
  intro value other h
  have hparts := congrArg (List.span (· ≠ 'e')) h
  rw [hsplit, hsplit, Prod.mk.injEq] at hparts
  refine Rat.ext (DecimalText.print_injective 0 hparts.1) ?_
  have hden := hparts.2
  split_ifs at hden with hvalue hother
  · rw [hvalue, hother]
  · rw [← Nat.ofDigitChars_ten_toDigits (n := value.den), (List.cons.inj hden).2,
      Nat.ofDigitChars_ten_toDigits]

def sampleNumbers : NumberText ℚ where
  text := sampleNumberText
  injective := sampleNumberText_injective
  ne_nil value h := by
    have hprint := (List.append_eq_nil_iff.mp h).1
    have hread := DecimalText.read_print 0 value.num
    rw [hprint] at hread
    exact nomatch hread
  numeric value c hc := by
    have hdigit : c.isDigit = true → isNumeric c = true := fun h => by simp [isNumeric, h]
    rcases List.mem_append.mp hc with hprint | hden
    · rcases mem_print_integer hprint with h | rfl
      · exact hdigit h
      · rfl
    · split_ifs at hden with hone
      · exact absurd hden List.not_mem_nil
      · rcases List.mem_cons.mp hden with rfl | hdigits
        · rfl
        · exact hdigit (Nat.isDigit_of_mem_toDigits (by decide) (by decide) hdigits)

/-- An accented letter is compared as the letter and its accent. -/
def decompose (key : String) : List Char :=
  key.toList.flatMap fun c => if c = 'é' then ['e', '\u0301'] else [c]

def sampleCompare : Collation where
  le a b := decompose a ≤ decompose b
  trans _ _ _ hab hbc := decide_eq_true ((of_decide_eq_true hab).trans (of_decide_eq_true hbc))
  total a b := by simpa using le_total (decompose a) (decompose b)

def sampleSummary : JsonRecord where
  fields := [("café", .number 1), ("cafe\u0301", .number 2)]
  arranged := Json.allObjects_object.mpr
    ⟨Json.arranged_of_unplaced (by decide +kernel) (by decide +kernel), by
      intro field hfield
      refine Json.allObjects_scalar ?_
      simp only [List.mem_cons, List.not_mem_nil, or_false] at hfield
      rcases hfield with rfl | rfl
      · trivial
      · trivial⟩

def sampleHistory : HandHistory where
  roundId := "holdem:1"
  roundType := .holdem
  referenceId := 1
  userId := 7
  status := "settled"
  stakeAmount := "10.00"
  totalStake := "10.00"
  payoutAmount := "0.00"
  fairness := none
  summary := some sampleSummary
  startedAt := "2026-01-01T00:00:00.000Z"
  settledAt := none
  events := []
  tableEvents := []

def sampleExportedAt : String := "2026-01-02T00:00:00.000Z"

def sampleDocument : Option SignedEvidenceBundle := do
  let replay ← buildHoldemReplayData sampleHistory
  let disputePayload ← buildHoldemDisputePayload sampleHistory sampleExportedAt
  let evidence ← buildHoldemHandEvidence toSerializableRecord sampleHistory sampleExportedAt
  return {
    schemaVersion := "holdem_signed_evidence_bundle_v1"
    roundId := sampleHistory.roundId
    referenceId := sampleHistory.referenceId
    exportedAt := sampleExportedAt
    summaryPage := buildSummaryPage sampleNumbers sampleHistory replay sampleExportedAt
    disputePayload
    evidence
    signature := ⟨"", "", "", ""⟩ }

def sampleText : Option String :=
  sampleDocument.map fun document =>
    String.ofList (document.unsignedPayload.canonical sampleNumbers sampleCompare)

/-- The digest of the sample has the length of a digest, and no other text has the same one. -/
def sampleHmac (payload : String) : List UInt8 :=
  if some payload = sampleText then List.replicate 32 0
  else List.replicate 33 1 ++ payload.toUTF8.data.toList

theorem sampleHmac_injective : Function.Injective sampleHmac := by
  intro first second h
  unfold sampleHmac at h
  split_ifs at h with hfirst hsecond hsecond
  · exact Option.some.inj (hfirst.trans hsecond.symm)
  · exact absurd (congrArg List.length h) (by simp)
  · exact absurd (congrArg List.length h) (by simp)
  · have hbytes := List.append_cancel_left h
    exact String.toByteArray_inj.mp (ByteArray.ext (Array.toList_inj.mp hbytes))

def sampleRuntime : EvidenceRuntime where
  numbers := sampleNumbers
  localeCompare := sampleCompare
  sha256 _ := String.ofList (List.replicate 64 '0')
  hmac _ := sampleHmac
  hmac_injective _ := sampleHmac_injective
  recordProperties := toSerializableRecord
  recordProperties_own _ _ := id

def sampleEnvironment : SigningEnvironment where
  signingSecret := ""
  userJwtSecret := "secret"
  signingKeyId := ""
  production := false

def sampleSignature : EvidenceBundleSignature where
  algorithm := "hmac-sha256"
  keyId := "holdem-hand-history-evidence-v1"
  payloadDigest := String.ofList (List.replicate 64 '0')
  signature := String.ofList (HexText.encode (List.replicate 32 0))

theorem sample_signed {document : SignedEvidenceBundle} (h : sampleDocument = some document) :
    sampleRuntime.createEvidenceBundleSignature sampleEnvironment document.unsignedPayload =
      .ok sampleSignature := by
  have hsecret : sampleEnvironment.getEvidenceSigningSecret = .ok "secret" := by decide +kernel
  have hkey : sampleEnvironment.getEvidenceSigningKeyId = "holdem-hand-history-evidence-v1" := by
    decide +kernel
  have htext : some (sampleRuntime.canonicalizeJson document.unsignedPayload) = sampleText := by
    rw [sampleText, h]
    rfl
  have hhmac : sampleRuntime.hmac "secret"
      (sampleRuntime.canonicalizeJson document.unsignedPayload) = List.replicate 32 0 :=
    if_pos htext
  rw [EvidenceRuntime.createEvidenceBundleSignature, hsecret]
  simp only [bind, Except.bind, pure, Except.pure, hkey, EvidenceRuntime.hmacText, hhmac]
  rfl

theorem sample_page {replay : ReplayData} (h : buildHoldemReplayData sampleHistory = some replay) :
    HoldemEvidenceSummaryPageSchema.parse
        (buildSummaryPage sampleNumbers sampleHistory replay sampleExportedAt) =
      some (buildSummaryPage sampleNumbers sampleHistory replay sampleExportedAt) := by
  have hfound : ∀ check : ReplayData → Bool,
      (buildHoldemReplayData sampleHistory).all check = true → check replay = true := by
    intro check hcheck
    rwa [h] at hcheck
  refine parse_summaryPage ?_ ?_
  · have htexts := hfound (fun replay => (overview sampleNumbers sampleHistory replay).all
      fun entry => 0 < textLength entry.1 ∧ 0 < textLength entry.2) (by decide +kernel)
    exact fun entry hentry => of_decide_eq_true (List.all_eq_true.mp htexts entry hentry)
  · have htexts := hfound (fun replay => (highlights sampleNumbers sampleHistory replay).all
      fun text => 0 < textLength text) (by decide +kernel)
    exact fun text htext => of_decide_eq_true (List.all_eq_true.mp htexts text htext)

theorem sample_built : ∃ bundle, sampleRuntime.buildHoldemSignedEvidenceBundle sampleEnvironment
    sampleHistory sampleExportedAt = .ok bundle := by
  obtain ⟨replay, hreplay⟩ := Option.isSome_iff_exists.mp
    (by rfl : (buildHoldemReplayData sampleHistory).isSome)
  have hpayload : ((buildHoldemDisputePayload sampleHistory sampleExportedAt).bind
      HoldemDisputePayloadSchema.parse).isSome = true := by decide +kernel
  have hevidence : ((buildHoldemHandEvidence toSerializableRecord sampleHistory
      sampleExportedAt).bind HoldemHandEvidenceSchema.parse).isSome = true := by decide +kernel
  have hsignature : parseSignature sampleSignature = some sampleSignature :=
    if_pos (by decide +kernel)
  obtain ⟨parsedPayload, hparsedPayload⟩ := Option.isSome_iff_exists.mp hpayload
  obtain ⟨payload, hpayload, hparsedPayload⟩ := Option.bind_eq_some_iff.mp hparsedPayload
  obtain ⟨parsedEvidence, hparsedEvidence⟩ := Option.isSome_iff_exists.mp hevidence
  obtain ⟨evidence, hevidence, hparsedEvidence⟩ := Option.bind_eq_some_iff.mp hparsedEvidence
  have hsigned := @sample_signed _ (by rw [sampleDocument, hreplay, hpayload, hevidence]; rfl)
  have hround : isRoundId sampleHistory.roundId = true := by decide +kernel
  have hreference : isPositiveInteger sampleHistory.referenceId = true := by decide +kernel
  exact ⟨_, build_eq hreplay hpayload hevidence hevidence hsigned
    (parseSignedEvidenceBundle_eq_some rfl hround hreference
      (sample_page hreplay) hparsedPayload hparsedEvidence hsignature)⟩

/-- The keys of the summary are tied, so that the bundle is not accepted with these keys swapped. -/
theorem not_bundleHolds_sample : ∃ runtime env history exportedAt bundle,
    EvidenceRuntime.buildHoldemSignedEvidenceBundle runtime env history exportedAt = .ok bundle ∧
      ¬ BundleHolds runtime env bundle := by
  obtain ⟨bundle, hbundle⟩ := sample_built
  refine ⟨_, _, _, _, bundle, hbundle, fun hholds => ?_⟩
  obtain ⟨signed, hsigned⟩ := exists_signedWith hbundle
  have hseparated := keysSeparated_of_accepted hsigned hholds.accepted
  obtain ⟨evidence, hevidence⟩ := Option.isSome_iff_exists.mp
    (by rfl : (buildHoldemHandEvidence toSerializableRecord sampleHistory sampleExportedAt).isSome)
  have huntied := hseparated.record hevidence (rfl : sampleHistory.summary = some sampleSummary)
  have hsame := huntied "café" (by decide +kernel) "cafe\u0301" (by decide +kernel)
    (by decide +kernel) (by decide +kernel) ⟨by decide +kernel, by decide +kernel⟩
  exact absurd hsame (by decide +kernel)

theorem bundleHolds_iff_sample : ∃ bundle,
    sampleRuntime.buildHoldemSignedEvidenceBundle sampleEnvironment sampleHistory sampleExportedAt =
        .ok bundle ∧
      (BundleHolds sampleRuntime sampleEnvironment bundle ↔
        KeysSeparated sampleRuntime sampleHistory sampleExportedAt) := by
  obtain ⟨bundle, hbundle⟩ := sample_built
  exact ⟨bundle, hbundle, bundleHolds_iff hbundle⟩

end Samples
end RewardSystem.HandEvidence
