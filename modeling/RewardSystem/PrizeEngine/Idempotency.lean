import RewardSystem.PrizeEngine.Conservation

/-!
# Idempotency keys of rewards

No constraint of the tables keeps two draw records under one idempotency key apart. What does is a
row that both requests write before they look for a replay: the row of their agent, or the row of
their player when they carry a display name or metadata.
-/

namespace RewardSystem.PrizeEngine

open ReadCommitted

/-! ## Records under a key -/

/-- The condition under which `loadIdempotentRewardReplay` takes a record for a repeat. -/
structure ReplayScope where
  projectId : Nat
  externalPlayerId : String
  environment : SaaSEnvironment
  idempotencyKey : String
  deriving DecidableEq

def RewardInput.replayScope (input : RewardInput) : ReplayScope where
  projectId := input.projectId
  externalPlayerId := input.externalPlayerId
  environment := input.environment
  idempotencyKey := input.idempotencyKey

def ReplayScope.records (scope : ReplayScope) (log : List Entry) : List DrawRecord :=
  recordsUnder scope.projectId scope.externalPlayerId scope.environment scope.idempotencyKey log

structure RewardResponse.Reports (response : RewardResponse) (record : DrawRecord) : Prop where
  drawRecordId : response.drawRecordId = record.id
  prizeId : response.prizeId = record.prizeId
  drawCost : response.drawCost = record.drawCost
  rewardAmount : response.rewardAmount = record.rewardAmount
  status : response.status = record.status
  idempotencyKey : response.idempotencyKey = record.idempotencyKey

theorem responseOf_reports (record : DrawRecord) (player : Player) :
    (responseOf record player).Reports record :=
  ⟨rfl, rfl, rfl, rfl, rfl, rfl⟩

section Records

variable {scope : ReplayScope} {log more : List Entry} {record : DrawRecord}

theorem ReplayScope.records_append :
    scope.records (log ++ more) = scope.records log ++ scope.records more := by
  simp [records, recordsUnder]

theorem ReplayScope.mem_of_mem_records (h : record ∈ scope.records log) :
    Entry.drawRecord record ∈ log := by
  obtain ⟨entry, hentry, hrecord⟩ := List.mem_filterMap.mp h
  cases entry with
  | responseSnapshot id response => cases hrecord
  | drawRecord other =>
      dsimp only at hrecord
      split at hrecord
      · obtain rfl := Option.some.inj hrecord
        exact hentry
      · cases hrecord

theorem ReplayScope.records_snapshot (id : Nat) (response : RewardResponse) :
    scope.records [.responseSnapshot id response] = [] := rfl

theorem ReplayScope.records_drawRecordOf (t : Nat) {input : RewardInput} (project : Project)
    (prizeId : Option Nat) (rewardAmount : Int) :
    scope.records [.drawRecord (drawRecordOf t input project prizeId rewardAmount)] =
      if input.replayScope = scope then [drawRecordOf t input project prizeId rewardAmount]
      else [] := by
  by_cases hscope : input.replayScope = scope
  · subst hscope
    simp [records, recordsUnder, drawRecordOf, RewardInput.replayScope]
  · have hother : ¬(input.projectId = scope.projectId ∧
        input.externalPlayerId = scope.externalPlayerId ∧
        input.environment = scope.environment ∧
        input.idempotencyKey = scope.idempotencyKey) := by
      rintro ⟨hproject, hplayer, henvironment, hkey⟩
      apply hscope
      cases scope
      simp_all [RewardInput.replayScope]
    simp [records, recordsUnder, drawRecordOf, hscope, hother]

theorem mem_of_readSnapshot {id : Nat} {response : RewardResponse}
    (h : readRewardResponseSnapshot id log = some response) :
    Entry.responseSnapshot id response ∈ log := by
  obtain ⟨entry, hentry, hsnapshot⟩ := List.mem_filterMap.mp (List.mem_of_getLast? h)
  cases entry with
  | drawRecord record => cases hsnapshot
  | responseSnapshot other stored =>
      dsimp only at hsnapshot
      split at hsnapshot
      next hid =>
        obtain rfl := Option.some.inj hsnapshot
        rwa [← hid]
      next => cases hsnapshot

theorem loadReplay_eq_none {db : Tables} {input : RewardInput}
    (h : loadIdempotentRewardReplay db input = .ok none) :
    input.replayScope.records db.log = [] := by
  unfold loadIdempotentRewardReplay at h
  dsimp only at h
  split at h
  case h_1 hnone => exact List.argmax_eq_none.mp hnone
  case h_2 =>
    split at h
    · cases h
    · split at h <;> cases h

theorem loadReplay_eq_some {db : Tables} {input : RewardInput} {replay : RewardResponse}
    (h : loadIdempotentRewardReplay db input = .ok (some replay)) :
    ∃ record stored, record ∈ input.replayScope.records db.log ∧
      Entry.responseSnapshot record.id stored ∈ db.log ∧
      replay = { stored with replayed := true } := by
  unfold loadIdempotentRewardReplay at h
  dsimp only at h
  split at h
  case h_1 => cases h
  case h_2 record hrecord =>
    split at h
    case isTrue => cases h
    case isFalse =>
      split at h
      case h_1 => cases h
      case h_2 stored hstored =>
        obtain rfl := Option.some.inj (Except.ok.inj h)
        exact ⟨record, stored, List.argmax_mem hrecord, mem_of_readSnapshot hstored, rfl⟩

end Records

/-! ## The row that serialises the requests -/

/-- Where a request stands with a row that it writes before it looks for a replay: outside the part
of its transaction that needs the row, with the row found missing, with the row found, or past the
statement that writes it. -/
inductive Passage where
  | outside
  | missing
  | found
  | reached
  deriving DecidableEq

def Stage.agentPassage : Stage → Passage
  | .loadLegacyPlayer _ none | .insertAgent _ _ => .missing
  | .loadLegacyPlayer _ (some _) | .updateAgent _ _ _ => .found
  | .loadProject | .loadAgent _ | .storeSnapshot _ | .commitSnapshot _ | .answered _ => .outside
  | _ => .reached

def Stage.playerPassage : Stage → Passage
  | .insertPlayer _ => .missing
  | .updatePlayer _ => .found
  | .loadProject | .loadAgent _ | .loadLegacyPlayer _ _ | .insertAgent _ _ | .reloadAgent _
  | .updateAgent _ _ _ | .loadPlayer _ | .storeSnapshot _ | .commitSnapshot _
  | .answered _ => .outside
  | _ => .reached

def Key.passage : Key → Stage → Passage
  | .agent _ _ => Stage.agentPassage
  | .player _ _ => Stage.playerPassage
  | _ => fun _ => .outside

/-- The request looks for a replay, and writes the row `gate` before it does. -/
def RewardInput.Serialised (input : RewardInput) (gate : Key) : Prop :=
  input.enforceIdempotency = true ∧
    (gate = input.agentKey ∨
      gate = input.playerKey ∧ (input.displayName ≠ none ∨ input.playerMetadata ≠ none))

/-- How a statement moves a request past the row. -/
structure Passes (db : Tables) (gate : Key) (before after : Passage) (action : Statement) :
    Prop where
  missing : after = .missing → before = .missing ∨ db.rows gate = none
  found : after = .found → before = .found ∨ db.rows gate ≠ none
  reached : after = .reached → before = .reached ∨ (∃ row next, action = .write gate row next) ∨
    (before = .missing ∧ db.rows gate ≠ none) ∨ (before = .found ∧ db.rows gate = none)
  holds : after ≠ .outside → (∀ next, action ≠ .commit next) ∧ ∀ next, action ≠ .rollback next

theorem Does.passes_agent {t : Nat} {input : RewardInput} {db : Tables} {stage : Stage}
    {action : Statement} (h : Does t input db stage action) :
    Passes db input.agentKey stage.agentPassage action.next.stage.agentPassage action := by
  cases h
  case agentLoaded project =>
    cases hrow : db.rows input.agentKey <;>
      constructor <;> simp [Action.next, Stage.agentPassage, hrow]
  all_goals constructor <;> simp_all [Action.next, Stage.agentPassage]

theorem Does.passes_player {t : Nat} {input : RewardInput} {db : Tables} {stage : Stage}
    {action : Statement} (h : Does t input db stage action)
    (hprofile : input.displayName ≠ none ∨ input.playerMetadata ≠ none) :
    Passes db input.playerKey stage.playerPassage action.next.stage.playerPassage action := by
  cases h
  case playerKept hkept => exact absurd hprofile hkept
  all_goals constructor <;> simp_all [Action.next, Stage.playerPassage]

theorem Does.passes {t : Nat} {input : RewardInput} {db : Tables} {stage : Stage}
    {action : Statement} {gate : Key} (h : Does t input db stage action)
    (hserialised : input.Serialised gate) :
    Passes db gate (gate.passage stage) (gate.passage action.next.stage) action := by
  obtain ⟨-, rfl | ⟨rfl, hprofile⟩⟩ := hserialised
  · exact h.passes_agent
  · exact h.passes_player hprofile

/-! ## What a session knows of the records -/

/-- The entries that a session has inserted and not committed. -/
def Stage.Inserted (t : Nat) (input : RewardInput) : Stage → List Entry → Prop
  | .commitRecord response, inserts =>
      ∃ project prizeId rewardAmount player,
        inserts = [.drawRecord (drawRecordOf t input project prizeId rewardAmount)] ∧
          response = responseOf (drawRecordOf t input project prizeId rewardAmount) player
  | .commitSnapshot response, inserts =>
      inserts = [.responseSnapshot response.drawRecordId response]
  | _, inserts => inserts = []

/-- The transaction has looked for a replay, found none, and is not committed. -/
def Stage.checked : Stage → Bool
  | .selectPrize _ | .decrementStock _ _ _ | .settleWin _ _ _ | .restoreStock _ _
  | .reloadProject _ | .settleProject _ _ | .updateBalance _ _ _ | .insertRecord _ _ _ _
  | .commitRecord _ => true
  | _ => false

def Stage.response : Stage → Option RewardResponse
  | .commitReplay response | .storeSnapshot response | .commitSnapshot response
  | .answered (.ok response) => some response
  | _ => none

/-- The response that is stored with the record after the commit. -/
def Stage.snapshot : Stage → Option RewardResponse
  | .storeSnapshot response | .commitSnapshot response => some response
  | _ => none

/-- The request's own record, if it settles one, is committed. -/
def Stage.settled : Stage → Bool
  | .storeSnapshot _ | .commitSnapshot _ | .answered _ => true
  | _ => false

section Does

variable {t : Nat} {input : RewardInput} {db : Tables} {stage : Stage} {action : Statement}

theorem Does.inserted (h : Does t input db stage action) {s : Session Row Entry Execution}
    (hs : s.state = ⟨input, stage⟩) (hinserts : stage.Inserted t input s.inserts) :
    action.next.stage.Inserted t input (s.after action).inserts := by
  cases h
  case recordInserted project prizeId rewardAmount player =>
    have hempty : s.inserts = [] := hinserts
    exact ⟨project, prizeId, rewardAmount, player, by simp [Session.after, hempty], rfl⟩
  case snapshotStored response =>
    have hempty : s.inserts = [] := hinserts
    simp [Session.after, Action.next, Stage.Inserted, hempty]
  all_goals first
    | exact hinserts
    | rfl

theorem Does.checked (h : Does t input db stage action)
    (hnext : action.next.stage.checked = true) :
    (stage.checked = true ∧ ∀ next, action ≠ .commit next) ∨
      (stage.checked = false ∧ stage.settled = false ∧
        (loadIdempotentRewardReplay db input = .ok none ∨ input.enforceIdempotency ≠ true) ∧
        (∀ inserts, stage.Inserted t input inserts → inserts = []) ∧ ∃ next, action = .goto next) := by
  cases h
  case replayMissing hreplay => exact .inr ⟨rfl, rfl, .inl hreplay, fun _ h => h, _, rfl⟩
  case replaySkipped hskip => exact .inr ⟨rfl, rfl, .inr hskip, fun _ h => h, _, rfl⟩
  all_goals simp_all [Action.next, Stage.checked]

theorem Does.response (h : Does t input db stage action) {response : RewardResponse}
    (hnext : action.next.stage.response = some response) :
    stage.response = some response ∨
      (loadIdempotentRewardReplay db input = .ok (some response) ∧ ∃ next, action = .goto next ∧
        ∀ inserts, stage.Inserted t input inserts → inserts = []) ∨
      (stage = .commitRecord response ∧ ∃ next, action = .commit next) := by
  cases h
  case replayFound hreplay =>
    obtain rfl := Option.some.inj hnext
    exact .inr (.inl ⟨hreplay, _, rfl, fun _ h => h⟩)
  case recordCommitted =>
    obtain rfl := Option.some.inj hnext
    exact .inr (.inr ⟨rfl, _, rfl⟩)
  all_goals first
    | exact .inl hnext
    | cases hnext

theorem Does.snapshot (h : Does t input db stage action) {response : RewardResponse}
    (hnext : action.next.stage.snapshot = some response) :
    (stage.snapshot = some response ∧ ∀ next, action ≠ .commit next) ∨
      (stage = .commitRecord response ∧ ∃ next, action = .commit next) := by
  cases h
  case recordCommitted =>
    obtain rfl := Option.some.inj hnext
    exact .inr ⟨rfl, _, rfl⟩
  case snapshotStored => exact .inl ⟨hnext, by simp⟩
  all_goals cases hnext

theorem Does.settled (h : Does t input db stage action)
    (hnext : action.next.stage.settled = false) :
    stage.settled = false ∧ ∀ next, action ≠ .commit next := by
  cases h <;> simp_all [Action.next, Stage.settled]

end Does

/-! ## The assertions -/

/-- Neither a record nor a snapshot of session `t` is committed. -/
structure Unused (db : Tables) (t : Nat) : Prop where
  record : ∀ record, Entry.drawRecord record ∈ db.log → record.id ≠ t
  snapshot : ∀ id response, Entry.responseSnapshot id response ∈ db.log → id ≠ t

/-- What holds of the committed tables. `absent` says that the row `gate` was missing at the
beginning; then the first request to write it leaves a record under the key. -/
structure Once (scope : ReplayScope) (gate : Key) (absent : Prop) (db : Tables) : Prop where
  once : (scope.records db.log).length ≤ 1
  snapshots : ∀ response record, Entry.responseSnapshot record.id response ∈ db.log →
    Entry.drawRecord record ∈ db.log → response.Reports record
  present : ¬absent → db.rows gate ≠ none
  entered : absent → db.rows gate ≠ none → scope.records db.log ≠ []

/-- What holds of a session. Only the requests in the scope are serialised, and when the row was
missing at the beginning, all requests are in the scope. -/
structure Ordered (scope : ReplayScope) (gate : Key) (absent : Prop) (db : Tables) (t : Nat)
    (s : Session Row Entry Execution) : Prop where
  serialised : s.state.input.replayScope = scope → s.state.input.Serialised gate
  alone : absent → s.state.input.replayScope = scope
  inserted : s.state.stage.Inserted t s.state.input s.inserts
  unused : s.state.stage.settled = false → Unused db t
  stored : ∀ response, s.state.stage.snapshot = some response → response.drawRecordId = t ∧
    ∀ record, Entry.drawRecord record ∈ db.log → record.id = t → response.Reports record
  missing : s.state.input.replayScope = scope → gate.passage s.state.stage = .missing → absent
  found : s.state.input.replayScope = scope → gate.passage s.state.stage = .found →
    (s.view db).rows gate ≠ none
  reached : s.state.input.replayScope = scope → gate.passage s.state.stage = .reached →
    s.writes gate ≠ none ∨ scope.records db.log ≠ []
  checked : s.state.input.replayScope = scope → s.state.stage.checked = true →
    scope.records db.log = []
  response : s.state.input.replayScope = scope → ∀ response,
    s.state.stage.response = some response →
    ∃ record ∈ scope.records db.log, response.Reports record

def idempotencyAssertions (scope : ReplayScope) (gate : Key) (absent : Prop) :
    Assertions Nat Row Entry Execution where
  shared := Once scope gate absent
  unused := Unused
  own := Ordered scope gate absent

/-- The requests of the run: those in the scope write the row `gate` before they look for a replay,
and if the row is missing at first there are no others. -/
def Admitted (scope : ReplayScope) (gate : Key) (absent : Prop) (input : RewardInput) : Prop :=
  (input.replayScope = scope → input.Serialised gate) ∧ (absent → input.replayScope = scope)

section Kept

variable {scope : ReplayScope} {gate : Key} {absent : Prop} {db : Tables} {t t' : Nat}
  {s s' : Session Row Entry Execution} {action : Statement}

theorem Stage.passage_of_checked {input : RewardInput} {stage : Stage}
    (hserialised : input.Serialised gate) (hchecked : stage.checked = true) :
    gate.passage stage = .reached := by
  obtain ⟨-, rfl | ⟨rfl, -⟩⟩ := hserialised <;> cases stage <;>
    simp_all [Stage.checked, Key.passage, Stage.agentPassage, Stage.playerPassage]

theorem Ordered.holds_gate (h : Ordered scope gate absent db t s)
    (hscope : s.state.input.replayScope = scope) (hchecked : s.state.stage.checked = true) :
    s.writes gate ≠ none := by
  have hreached := Stage.passage_of_checked (h.serialised hscope) hchecked
  exact (h.reached hscope hreached).resolve_right fun hne => hne (h.checked hscope hchecked)

theorem Ordered.commit_cases (h : Ordered scope gate absent db t s) {next : Execution}
    (hexec : rewardEngine.exec t s.state (s.view db) = some (.commit next)) :
    s.inserts = [] ∨
    (s.state.stage.checked = true ∧ ∃ project prizeId rewardAmount, s.inserts =
      [.drawRecord (drawRecordOf t s.state.input project prizeId rewardAmount)]) ∨
    ∃ response, s.state.stage.snapshot = some response ∧
      s.inserts = [.responseSnapshot t response] := by
  obtain ⟨⟨input, stage⟩, writes, inserts⟩ := s
  have hdoes : Does t input _ stage (.commit next) := Execution.exec_does hexec
  have hinserted := h.inserted
  have hstored := h.stored
  cases hdoes with
  | recordCommitted response =>
      obtain ⟨project, prizeId, rewardAmount, player, hinserts, -⟩ := hinserted
      exact .inr (.inl ⟨rfl, project, prizeId, rewardAmount, hinserts⟩)
  | replayCommitted response => exact .inl hinserted
  | snapshotCommitted response =>
      have hid := (hstored response rfl).1
      refine .inr (.inr ⟨response, rfl, ?_⟩)
      have hinserts : inserts = [.responseSnapshot response.drawRecordId response] := hinserted
      rw [hinserts, hid]

theorem Unused.publish (hunused : Unused db t) (hne : t ≠ t')
    (h : Ordered scope gate absent db t' s') {next : Execution}
    (hexec : rewardEngine.exec t' s'.state (s'.view db) = some (.commit next)) :
    Unused (s'.publish db) t := by
  have hlog : (s'.publish db).log = db.log ++ s'.inserts := rfl
  constructor
  · intro record hrecord
    rw [hlog, List.mem_append] at hrecord
    rcases hrecord with hrecord | hrecord
    · exact hunused.record record hrecord
    · rcases h.commit_cases hexec with hnil | ⟨-, project, prizeId, rewardAmount, hinserts⟩ |
        ⟨response, -, hinserts⟩
      · simp [hnil] at hrecord
      · rw [hinserts, List.mem_singleton, Entry.drawRecord.injEq] at hrecord
        subst hrecord
        exact hne.symm
      · simp [hinserts] at hrecord
  · intro id response hsnapshot
    rw [hlog, List.mem_append] at hsnapshot
    rcases hsnapshot with hsnapshot | hsnapshot
    · exact hunused.snapshot id response hsnapshot
    · rcases h.commit_cases hexec with hnil | ⟨-, project, prizeId, rewardAmount, hinserts⟩ |
        ⟨stored, -, hinserts⟩
      · simp [hnil] at hsnapshot
      · simp [hinserts] at hsnapshot
      · rw [hinserts, List.mem_singleton, Entry.responseSnapshot.injEq] at hsnapshot
        rw [hsnapshot.1]
        exact hne.symm

theorem publish_present {k : Key} (h : db.rows k ≠ none) : (s.publish db).rows k ≠ none := by
  unfold Session.publish Session.view
  cases s.writes k <;> simp_all

theorem view_publish_present {k : Key} (h : (s.view db).rows k ≠ none) :
    (s.view (s'.publish db)).rows k ≠ none := by
  cases hw : s.writes k with
  | some row => simp [Session.view, hw]
  | none =>
      have hdb : db.rows k ≠ none := by simpa [Session.view, hw] using h
      simpa [Session.view, hw] using publish_present (s := s') hdb

/-- The commit of another session keeps what a session knows: two sessions in the scope that may
both still settle would both hold the row. -/
theorem Ordered.publish (h : Ordered scope gate absent db t s) (hne : t ≠ t')
    (h' : Ordered scope gate absent db t' s') (hapart : s.Apart s') {next : Execution}
    (hexec : rewardEngine.exec t' s'.state (s'.view db) = some (.commit next)) :
    Ordered scope gate absent (s'.publish db) t s where
  serialised := h.serialised
  alone := h.alone
  inserted := h.inserted
  unused hsettled := (h.unused hsettled).publish hne h' hexec
  stored response hresponse := by
    refine ⟨(h.stored response hresponse).1, ?_⟩
    intro record hrecord hid
    have hlog : (s'.publish db).log = db.log ++ s'.inserts := rfl
    rw [hlog, List.mem_append] at hrecord
    rcases hrecord with hrecord | hrecord
    · exact (h.stored response hresponse).2 record hrecord hid
    · rcases h'.commit_cases hexec with hnil | ⟨-, project, prizeId, rewardAmount, hinserts⟩ |
        ⟨stored, -, hinserts⟩
      · simp [hnil] at hrecord
      · rw [hinserts, List.mem_singleton, Entry.drawRecord.injEq] at hrecord
        subst hrecord
        exact absurd hid.symm hne
      · simp [hinserts] at hrecord
  missing := h.missing
  found hscope hfound := view_publish_present (h.found hscope hfound)
  reached hscope hreached := by
    refine (h.reached hscope hreached).imp_right fun hrecords => ?_
    change scope.records (db.log ++ s'.inserts) ≠ []
    rw [ReplayScope.records_append]
    exact List.append_ne_nil_of_left_ne_nil hrecords _
  checked hscope hchecked := by
    change scope.records (db.log ++ s'.inserts) = []
    rw [ReplayScope.records_append, h.checked hscope hchecked, List.nil_append]
    rcases h'.commit_cases hexec with hnil | ⟨hchecked', project, prizeId, rewardAmount, hinserts⟩ |
      ⟨stored, -, hinserts⟩
    · rw [hnil]
      rfl
    · rw [hinserts, ReplayScope.records_drawRecordOf, if_neg]
      intro hscope'
      exact (hapart gate).elim (h.holds_gate hscope hchecked) (h'.holds_gate hscope' hchecked')
    · rw [hinserts]
      rfl
  response hscope response hresponse := by
    obtain ⟨record, hrecord, hreports⟩ := h.response hscope response hresponse
    refine ⟨record, ?_, hreports⟩
    change record ∈ scope.records (db.log ++ s'.inserts)
    rw [ReplayScope.records_append]
    exact List.mem_append_left _ hrecord

theorem Once.publish (honce : Once scope gate absent db) (h : Ordered scope gate absent db t s)
    {next : Execution}
    (hexec : rewardEngine.exec t s.state (s.view db) = some (.commit next)) :
    Once scope gate absent (s.publish db) where
  once := by
    change (scope.records (db.log ++ s.inserts)).length ≤ 1
    rw [ReplayScope.records_append]
    rcases h.commit_cases hexec with hnil | ⟨hchecked, project, prizeId, rewardAmount, hinserts⟩ |
      ⟨response, -, hinserts⟩
    · simpa [hnil, ReplayScope.records, recordsUnder] using honce.once
    · rw [hinserts, ReplayScope.records_drawRecordOf]
      split
      next hscope => simp [h.checked hscope hchecked]
      next => simpa using honce.once
    · rw [hinserts, ReplayScope.records_snapshot, List.append_nil]
      exact honce.once
  snapshots := by
    intro response record hsnapshot hrecord
    have hlog : (s.publish db).log = db.log ++ s.inserts := rfl
    rw [hlog, List.mem_append] at hsnapshot hrecord
    rcases h.commit_cases hexec with hnil | ⟨hchecked, project, prizeId, rewardAmount, hinserts⟩ |
      ⟨stored, hstored, hinserts⟩
    · simp only [hnil, List.not_mem_nil, or_false] at hsnapshot hrecord
      exact honce.snapshots response record hsnapshot hrecord
    · have hunused : Unused db t := h.unused (by
        cases hstage : s.state.stage <;> simp_all [Stage.checked, Stage.settled])
      simp only [hinserts, List.mem_singleton, reduceCtorEq, or_false] at hsnapshot
      rcases hrecord with hrecord | hrecord
      · exact honce.snapshots response record hsnapshot hrecord
      · rw [hinserts, List.mem_singleton, Entry.drawRecord.injEq] at hrecord
        subst hrecord
        exact absurd rfl (hunused.snapshot _ response hsnapshot)
    · simp only [hinserts, List.mem_singleton, reduceCtorEq, or_false] at hrecord
      rcases hsnapshot with hsnapshot | hsnapshot
      · exact honce.snapshots response record hsnapshot hrecord
      · rw [hinserts, List.mem_singleton, Entry.responseSnapshot.injEq] at hsnapshot
        obtain ⟨hid, rfl⟩ := hsnapshot
        exact (h.stored _ hstored).2 record hrecord hid
  present habsent := publish_present (honce.present habsent)
  entered habsent _ := by
    change scope.records (db.log ++ s.inserts) ≠ []
    have hscope := h.alone habsent
    obtain ⟨⟨input, stage⟩, writes, inserts⟩ := s
    have hdoes : Does t input _ stage (.commit next) := Execution.exec_does hexec
    have hresponse := h.response hscope
    have hinserted := h.inserted
    rw [ReplayScope.records_append]
    cases hdoes with
    | recordCommitted response =>
        obtain ⟨project, prizeId, rewardAmount, player, hinserts, -⟩ := hinserted
        dsimp only at hinserts hscope ⊢
        rw [hinserts, ReplayScope.records_drawRecordOf, if_pos hscope]
        simp
    | replayCommitted response | snapshotCommitted response =>
        obtain ⟨record, hrecord, -⟩ := hresponse response rfl
        exact List.append_ne_nil_of_left_ne_nil (List.ne_nil_of_mem hrecord) _

theorem after_writes {k : Key} (hcommit : ∀ next, action ≠ .commit next)
    (hrollback : ∀ next, action ≠ .rollback next) (h : s.writes k ≠ none) :
    (s.after action).writes k ≠ none := by
  cases action with
  | commit next => exact absurd rfl (hcommit next)
  | rollback next => exact absurd rfl (hrollback next)
  | write k' row next =>
      by_cases hk : k = k'
      · subst hk
        simp [Session.after]
      · simpa [Session.after, Function.update_of_ne hk] using h
  | goto next => exact h
  | insert entry next => exact h

theorem database_of_not_commit (hcommit : ∀ next, action ≠ .commit next) :
    action.database db s = db := by
  cases action with
  | commit next => exact absurd rfl (hcommit next)
  | _ => rfl

theorem Ordered.after (honce : Once scope gate absent db) (h : Ordered scope gate absent db t s)
    (hexec : rewardEngine.exec t s.state (s.view db) = some action) :
    Ordered scope gate absent (action.database db s) t (s.after action) := by
  have hdoes : Does t s.state.input (s.view db) s.state.stage action := Execution.exec_does hexec
  have hinput : action.next.input = s.state.input := Execution.exec_input hexec
  have hpasses : s.state.input.replayScope = scope →
      Passes (s.view db) gate (gate.passage s.state.stage) (gate.passage action.next.stage)
        action := fun hscope => hdoes.passes (h.serialised hscope)
  refine ⟨?_, ?_, ?_, ?_, ?_, ?_, ?_, ?_, ?_, ?_⟩ <;> rw [Session.after_state]
  · rw [hinput]
    exact h.serialised
  · rw [hinput]
    exact h.alone
  · rw [hinput]
    exact hdoes.inserted rfl h.inserted
  · intro hsettled
    obtain ⟨hbefore, hcommit⟩ := hdoes.settled hsettled
    rw [database_of_not_commit hcommit]
    exact h.unused hbefore
  · intro response hresponse
    rcases hdoes.snapshot hresponse with ⟨hbefore, hcommit⟩ | ⟨hstage, next, rfl⟩
    · rw [database_of_not_commit hcommit]
      exact h.stored response hbefore
    · have hinserted := h.inserted
      rw [hstage] at hinserted
      obtain ⟨project, prizeId, rewardAmount, player, hinserts, rfl⟩ := hinserted
      refine ⟨rfl, ?_⟩
      intro record hrecord hid
      change Entry.drawRecord record ∈ db.log ++ s.inserts at hrecord
      rw [hinserts, List.mem_append, List.mem_singleton, Entry.drawRecord.injEq] at hrecord
      rcases hrecord with hrecord | rfl
      · exact absurd hid ((h.unused (by rw [hstage]; rfl)).record record hrecord)
      · exact responseOf_reports _ player
  · intro hscope hmissing
    rw [hinput] at hscope
    rcases (hpasses hscope).missing hmissing with hbefore | hrow
    · exact h.missing hscope hbefore
    · by_contra habsent
      have hpresent := honce.present habsent
      cases hw : s.writes gate <;> simp_all [Session.view]
  · intro hscope hfound
    rw [hinput] at hscope
    obtain ⟨hcommit, hrollback⟩ := (hpasses hscope).holds (by simp [hfound])
    have hrow : (s.view db).rows gate ≠ none :=
      ((hpasses hscope).found hfound).elim (h.found hscope) id
    rw [database_of_not_commit hcommit]
    cases hw : s.writes gate with
    | some row =>
        have hafter : (s.after action).writes gate ≠ none :=
          after_writes hcommit hrollback (by simp [hw])
        obtain ⟨row', hrow'⟩ := Option.ne_none_iff_exists'.mp hafter
        simp [Session.view, hrow']
    | none =>
        have hdb : db.rows gate ≠ none := by simpa [Session.view, hw] using hrow
        cases hafter : (s.after action).writes gate <;> simp_all [Session.view]
  · intro hscope hreached
    rw [hinput] at hscope
    obtain ⟨hcommit, hrollback⟩ := (hpasses hscope).holds (by simp [hreached])
    rw [database_of_not_commit hcommit]
    rcases (hpasses hscope).reached hreached with hbefore | ⟨row, next, rfl⟩ |
      ⟨hmissing, hrow⟩ | ⟨hfound, hrow⟩
    · exact (h.reached hscope hbefore).imp_left (after_writes hcommit hrollback)
    · exact .inl (by simp [Session.after])
    · -- the row that was missing is there now: the session's own, or a committed one
      by_cases hw : s.writes gate = none
      · have hdb : db.rows gate ≠ none := by simpa [Session.view, hw] using hrow
        exact .inr (honce.entered (h.missing hscope hmissing) hdb)
      · exact .inl (after_writes hcommit hrollback hw)
    · exact absurd hrow (h.found hscope hfound)
  · intro hscope hchecked
    rw [hinput] at hscope
    rcases hdoes.checked hchecked with ⟨hbefore, hcommit⟩ | ⟨-, -, hreplay, hempty, next, rfl⟩
    · rw [database_of_not_commit hcommit]
      exact h.checked hscope hbefore
    · have hnone := hreplay.resolve_right fun hskip => hskip (h.serialised hscope).1
      have hrecords := loadReplay_eq_none hnone
      have hview : (s.view db).log = db.log := by
        simp [Session.view, hempty s.inserts h.inserted]
      rw [hscope, hview] at hrecords
      exact hrecords
  · intro hscope response hresponse
    rw [hinput] at hscope
    rcases hdoes.response hresponse with hbefore | ⟨hreplay, next, rfl, hempty⟩ |
      ⟨hstage, next, rfl⟩
    · obtain ⟨record, hrecord, hreports⟩ := h.response hscope response hbefore
      refine ⟨record, ?_, hreports⟩
      cases action with
      | commit next =>
          change record ∈ scope.records (db.log ++ s.inserts)
          rw [ReplayScope.records_append]
          exact List.mem_append_left _ hrecord
      | _ => exact hrecord
    · obtain ⟨record, stored, hrecord, hstored, rfl⟩ := loadReplay_eq_some hreplay
      have hview : (s.view db).log = db.log := by
        simp [Session.view, hempty s.inserts h.inserted]
      rw [hscope, hview] at hrecord
      rw [hview] at hstored
      have hreports := honce.snapshots stored record hstored
        (ReplayScope.mem_of_mem_records hrecord)
      exact ⟨record, hrecord, hreports.1, hreports.2, hreports.3, hreports.4, hreports.5,
        hreports.6⟩
    · have hinserted := h.inserted
      rw [hstage] at hinserted
      obtain ⟨project, prizeId, rewardAmount, player, hinserts, rfl⟩ := hinserted
      refine ⟨_, ?_, responseOf_reports _ player⟩
      change _ ∈ scope.records (db.log ++ s.inserts)
      rw [ReplayScope.records_append, hinserts, ReplayScope.records_drawRecordOf, if_pos hscope]
      simp

theorem idempotency_kept :
    ReadCommitted.Kept rewardEngine (Admitted scope gate absent)
      (idempotencyAssertions scope gate absent) where
  begins db t request hadmitted _ hunused :=
    { serialised := hadmitted.1
      alone := hadmitted.2
      inserted := rfl
      unused := fun _ => hunused
      stored := fun _ h => by cases h
      missing := fun _ h => by cases gate <;> cases h
      found := fun _ h => by cases gate <;> cases h
      reached := fun _ h => by cases gate <;> cases h
      checked := fun _ h => by cases h
      response := fun _ _ h => by cases h }
  steps db t s action honce hown hexec := by
    refine ⟨?_, hown.after honce hexec⟩
    cases action with
    | commit next => exact honce.publish hown hexec
    | _ => exact honce
  others db t t' s s' next hne _ hown hown' hapart hexec := hown.publish hne hown' hapart hexec
  waiting db t t' s' next hne _ hunused hown' hexec := hunused.publish hne hown' hexec

end Kept

/-! ## One record under a key -/

/-- The requests that a run begins. -/
def begun (events : List (Transition.Event (System Nat Row Entry Execution)
    (Label Nat RewardInput))) : List RewardInput :=
  events.filterMap fun e =>
    match e.label with
    | .begin _ input => some input
    | _ => none

theorem mem_begun {events : List (Transition.Event (System Nat Row Entry Execution)
    (Label Nat RewardInput))} {e : Transition.Event (System Nat Row Entry Execution)
    (Label Nat RewardInput)} (he : e ∈ events) {t : Nat} {input : RewardInput}
    (hlabel : e.label = .begin t input) : input ∈ begun events :=
  List.mem_filterMap.mpr ⟨e, he, by simp [hlabel]⟩

def rewardScope : ReplayScope where
  projectId := 1
  externalPlayerId := "player-1"
  environment := .sandbox
  idempotencyKey := "key"

def responseAt (sys : System Nat Row Entry Execution) (t : Nat) : Option RewardResponse :=
  match sys.slots t with
  | .running s => s.state.stage.response
  | _ => none

def errorAt (sys : System Nat Row Entry Execution) (t : Nat) : Option ApiError :=
  match sys.slots t with
  | .running s =>
      match s.state.stage with
      | .answered (.error error) => some error
      | _ => none
  | _ => none

end RewardSystem.PrizeEngine
