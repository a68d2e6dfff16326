import RewardSystem.Control.ChangeRequest

/-!
# Four eyes on configuration changes

A call checks the status of a request when it reads it, and updates the request by its id, whatever
its status is by then. Between the two another call may have committed. As long as no update meets a
request whose status has changed since it was read, a change is applied at most once, after another
administrator has approved it, and never after a rejection.
-/

namespace RewardSystem.Control

open ReadCommitted Transition

abbrev Center (Payload : Type) : Type :=
  System Nat (fun _ : Nat => ConfigChangeRequest Payload) (AppliedChange Payload)
    (Execution Payload)

abbrev Step (Payload : Type) : Type :=
  Event (Center Payload) (Label Nat ControlCall)

abbrev CallSession (Payload : Type) : Type :=
  Session (fun _ : Nat => ConfigChangeRequest Payload) (AppliedChange Payload) (Execution Payload)

section Claims

variable {Payload : Type} (id : Nat)

def statusOf (db : Tables Payload) : Option ChangeRequestStatus :=
  (db.rows id).map ConfigChangeRequest.status

def applications (db : Tables Payload) : Nat :=
  db.log.countP fun entry => entry.requestId = id

inductive Follows : ChangeRequestStatus → ChangeRequestStatus → Prop
  | submitted : Follows .draft .pendingApproval
  | approved : Follows .pendingApproval .approved
  | published : Follows .approved .published
  | rejected {status : ChangeRequestStatus} (hpublished : status ≠ .published)
      (hrejected : status ≠ .rejected) : Follows status .rejected

def Applies (e : Step Payload) : Prop :=
  applications id e.before.committed ≠ applications id e.after.committed

def Rejects (e : Step Payload) : Prop :=
  statusOf id e.before.committed ≠ some .rejected ∧
    statusOf id e.after.committed = some .rejected

/-- The step commits the approval of an administrator who has not created the request. -/
def ApprovedByAnother (e : Step Payload) : Prop :=
  ∃ t s row, e.label = .statement t ∧ e.before.slots t = .running s ∧
    s.state.call.requestId = id ∧ s.state.call.action = .approve ∧
    e.before.committed.rows id = some row ∧ s.state.call.adminId ≠ row.createdByAdminId ∧
    statusOf id e.after.committed = some .approved

/-- The statement updates the request while its status is the one that was read. -/
def FreshUpdate (x : Execution Payload) (db : Tables Payload) : Prop :=
  match x.stage with
  | .update request _ => x.call.requestId = id → statusOf id db = some request.status
  | _ => True

instance (x : Execution Payload) (db : Tables Payload) : Decidable (FreshUpdate id x db) := by
  unfold FreshUpdate
  split <;> infer_instance

/-- What the control center promises of a request, over a run. -/
structure FourEyes (events : List (Step Payload)) : Prop where
  path : ∀ e ∈ events, statusOf id e.after.committed = statusOf id e.before.committed ∨
    ∃ status status', statusOf id e.before.committed = some status ∧
      statusOf id e.after.committed = some status' ∧ Follows status status'
  once : ∀ e ∈ events, applications id e.after.committed ≤ 1
  approved : ∀ earlier e later, events = earlier ++ e :: later → Applies id e →
    ∃ e' ∈ earlier, ApprovedByAnother id e'
  notRejected : ∀ earlier e later, events = earlier ++ e :: later → Rejects id e →
    ∀ e' ∈ later, ¬Applies id e'

end Claims

/-! ## One statement -/

namespace ControlAction

def target : ControlAction → ChangeRequestStatus
  | submit _ => .pendingApproval
  | approve => .approved
  | reject _ => .rejected
  | publish _ _ => .published

def Allows : ControlAction → ChangeRequestStatus → Prop
  | submit _, status => status = .draft
  | approve, status => status = .pendingApproval
  | reject _, status => status ≠ .published ∧ status ≠ .rejected
  | publish _ _, status => status = .approved

theorem follows {action : ControlAction} {status : ChangeRequestStatus}
    (h : action.Allows status) : Follows status action.target := by
  cases action with
  | submit _ => exact h ▸ .submitted
  | approve => exact h ▸ .approved
  | reject _ => exact .rejected h.1 h.2
  | publish _ _ => exact h ▸ .published

end ControlAction

section Statements

variable {Payload : Type} {toUpperCase : String → String} {call : ControlCall}
  {request row : ConfigChangeRequest Payload}

theorem allows_of_assertAllowed (h : call.assertAllowed toUpperCase request = .ok ()) :
    call.action.Allows request.status ∧
      (call.action = .approve → request.createdByAdminId ≠ call.adminId) := by
  unfold ControlCall.assertAllowed at h
  cases haction : call.action with
  | submit _ =>
      simp only [haction] at h
      obtain ⟨_, hstatus, -⟩ := ApiError.bind_eq_ok.mp h
      exact ⟨by simpa [ControlAction.Allows] using hstatus, by simp⟩
  | approve =>
      simp only [haction] at h
      obtain ⟨_, hstatus, h⟩ := ApiError.bind_eq_ok.mp h
      exact ⟨by simpa [ControlAction.Allows] using hstatus, fun _ => by simpa using h⟩
  | reject _ =>
      simp only [haction] at h
      exact ⟨by simpa [ControlAction.Allows] using h, by simp⟩
  | publish _ _ =>
      simp only [haction] at h
      obtain ⟨_, hstatus, -⟩ := ApiError.bind_eq_ok.mp h
      exact ⟨by simpa [ControlAction.Allows] using hstatus, by simp⟩

@[simp]
theorem updated_status (appliedTargetId : Option Nat) :
    (call.updated request appliedTargetId row).status = call.action.target := by
  unfold ControlCall.updated
  cases call.action <;> rfl

@[simp]
theorem updated_createdBy (appliedTargetId : Option Nat) :
    (call.updated request appliedTargetId row).createdByAdminId = row.createdByAdminId := by
  unfold ControlCall.updated
  cases call.action <;> rfl

def ControlCall.entries (call : ControlCall) (request : ConfigChangeRequest Payload) :
    List (AppliedChange Payload) :=
  match call.action with
  | .publish _ _ => [⟨call.requestId, request.changePayload, call.adminId⟩]
  | _ => []

/-- What one statement of a call does. -/
inductive Does (toUpperCase : String → String) (x : Execution Payload) (db : Tables Payload) :
    Statement Payload → Prop
  | throws (error : ApiError) :
      Does toUpperCase x db (.rollback (x.at (.answered (.error error))))
  | readsToApply (request : ConfigChangeRequest Payload) (hstage : x.stage = .readRequest)
      (hrow : db.rows x.call.requestId = some request)
      (hallowed : x.call.assertAllowed toUpperCase request = .ok ()) :
      Does toUpperCase x db (.goto (x.at (.apply request)))
  | readsToUpdate (request : ConfigChangeRequest Payload) (hstage : x.stage = .readRequest)
      (hrow : db.rows x.call.requestId = some request)
      (hallowed : x.call.assertAllowed toUpperCase request = .ok ())
      (hnothing : x.call.entries request = []) :
      Does toUpperCase x db (.goto (x.at (.update request none)))
  | applies (request : ConfigChangeRequest Payload) (appliedTargetId : Option Nat)
      (hstage : x.stage = .apply request)
      (hentries : x.call.entries request =
        [⟨x.call.requestId, request.changePayload, x.call.adminId⟩]) :
      Does toUpperCase x db (.insert ⟨x.call.requestId, request.changePayload, x.call.adminId⟩
        (x.at (.update request appliedTargetId)))
  | updates (request row : ConfigChangeRequest Payload) (appliedTargetId : Option Nat)
      (hstage : x.stage = .update request appliedTargetId)
      (hrow : db.rows x.call.requestId = some row) :
      Does toUpperCase x db (.write x.call.requestId (x.call.updated request appliedTargetId row)
        (x.at (.commit (x.call.updated request appliedTargetId row))))
  | commits (updated : ConfigChangeRequest Payload) (hstage : x.stage = .commit updated) :
      Does toUpperCase x db (.commit (x.at (.answered (.ok updated))))

theorem does_of_exec {x : Execution Payload} {db : Tables Payload} {action : Statement Payload}
    (h : x.exec toUpperCase db = some action) : Does toUpperCase x db action := by
  unfold Execution.exec at h
  cases hstage : x.stage with
  | readRequest =>
      simp only [hstage] at h
      cases hrow : db.rows x.call.requestId with
      | none =>
          simp only [hrow] at h
          exact Option.some.inj h ▸ .throws _
      | some request =>
          simp only [hrow] at h
          cases hallowed : x.call.assertAllowed toUpperCase request with
          | error error =>
              simp only [hallowed] at h
              exact Option.some.inj h ▸ .throws _
          | ok _ =>
              simp only [hallowed] at h
              cases haction : x.call.action with
              | publish _ _ =>
                  simp only [haction] at h
                  exact Option.some.inj h ▸ .readsToApply request hstage hrow hallowed
              | _ =>
                  simp only [haction] at h
                  exact Option.some.inj h ▸ .readsToUpdate request hstage hrow hallowed
                    (by simp [ControlCall.entries, haction])
  | apply request =>
      simp only [hstage] at h
      split at h
      case h_1 => exact Option.some.inj h ▸ .throws _
      case h_2 text target haction =>
        exact Option.some.inj h ▸ .applies request target hstage
          (by simp [ControlCall.entries, haction])
      case h_3 => cases h
  | update request appliedTargetId =>
      simp only [hstage] at h
      cases hrow : db.rows x.call.requestId with
      | none =>
          simp only [hrow] at h
          exact Option.some.inj h ▸ .throws _
      | some row =>
          simp only [hrow] at h
          exact Option.some.inj h ▸ .updates request row appliedTargetId hstage hrow
  | commit updated =>
      simp only [hstage] at h
      exact Option.some.inj h ▸ .commits updated hstage
  | answered result => simp [hstage] at h

end Statements

/-! ## What fresh updates keep -/

/-- The call was allowed on the request that it has read. -/
structure Checked {Payload : Type} (creator : Nat) (call : ControlCall)
    (request : ConfigChangeRequest Payload) : Prop where
  allows : call.action.Allows request.status
  other : call.action = .approve → call.adminId ≠ creator

/-- How far a call on the request has come. -/
def Progress {Payload : Type} (creator : Nat) (db : Tables Payload) (s : CallSession Payload) :
    Prop :=
  match s.state.stage with
  | .readRequest | .answered _ => s.writes s.state.call.requestId = none ∧ s.inserts = []
  | .apply request => s.writes s.state.call.requestId = none ∧ s.inserts = [] ∧
      Checked creator s.state.call request
  | .update request _ => s.writes s.state.call.requestId = none ∧
      s.inserts = s.state.call.entries request ∧ Checked creator s.state.call request
  | .commit updated => s.writes s.state.call.requestId = some updated ∧
      ∃ request row appliedTargetId, s.inserts = s.state.call.entries request ∧
        Checked creator s.state.call request ∧ db.rows s.state.call.requestId = some row ∧
        row.status = request.status ∧ updated = s.state.call.updated request appliedTargetId row

/-- A call on another request leaves this one alone. -/
structure Elsewhere {Payload : Type} (id : Nat) (s : CallSession Payload) : Prop where
  writes : s.writes id = none
  inserts : ∀ entry ∈ s.inserts, entry.requestId ≠ id

def reviewed {Payload : Type} (id creator : Nat) :
    Assertions Nat (fun _ : Nat => ConfigChangeRequest Payload) (AppliedChange Payload)
      (Execution Payload) where
  shared db := (∀ row, db.rows id = some row → row.createdByAdminId = creator) ∧
    applications id db = if statusOf id db = some .published then 1 else 0
  unused _ _ := True
  own db _ s :=
    if s.state.call.requestId = id then Progress creator db s else Elsewhere id s

section Kept

variable {Payload : Type} {toUpperCase : String → String} {id creator : Nat} {db : Tables Payload}
  {s : CallSession Payload}

theorem view_of_unwritten (h : s.writes id = none) : (s.view db).rows id = db.rows id := by
  simp [Session.view, h]

theorem applications_publish : applications id (s.publish db) =
    applications id db + s.inserts.countP fun entry => entry.requestId = id := by
  simp [applications, Session.publish, Session.view, List.countP_append]

theorem Elsewhere.publish (h : Elsewhere id s) :
    (s.publish db).rows id = db.rows id ∧ applications id (s.publish db) = applications id db := by
  refine ⟨view_of_unwritten h.writes, ?_⟩
  have hnone : s.inserts.countP (fun entry => decide (entry.requestId = id)) = 0 := by
    rw [List.countP_eq_zero]
    simpa using h.inserts
  rw [applications_publish, hnone, Nat.add_zero]

theorem elsewhere_after {action : Statement Payload} (h : Elsewhere id s)
    (hother : s.state.call.requestId ≠ id) (hdoes : Does toUpperCase s.state (s.view db) action) :
    Elsewhere id (s.after action) := by
  cases hdoes with
  | throws | commits => exact ⟨rfl, by simp [Session.after, Session.fresh]⟩
  | readsToApply | readsToUpdate => exact ⟨h.writes, h.inserts⟩
  | applies request appliedTargetId =>
      refine ⟨h.writes, ?_⟩
      simp only [Session.after, List.mem_append, List.mem_singleton]
      rintro entry (hentry | rfl)
      · exact h.inserts entry hentry
      · exact hother
  | updates request row appliedTargetId =>
      refine ⟨?_, h.inserts⟩
      simp only [Session.after]
      rw [Function.update_of_ne (Ne.symm hother)]
      exact h.writes

theorem call_of_does {x : Execution Payload} {action : Statement Payload}
    (hdoes : Does toUpperCase x db action) : action.next.call = x.call := by
  cases hdoes <;> rfl

theorem ne_published_of_allows {action : ControlAction} {status : ChangeRequestStatus}
    (h : action.Allows status) : status ≠ .published := by
  cases action with
  | reject _ => exact h.1
  | _ => rintro rfl; cases h

theorem countP_entries (call : ControlCall) (request : ConfigChangeRequest Payload) :
    (call.entries request).countP (fun entry => entry.requestId = call.requestId) =
      if call.action.target = .published then 1 else 0 := by
  unfold ControlCall.entries ControlAction.target
  cases call.action <;> simp

/-- A call moves the committed status along the path, and applies the change when it publishes. -/
structure Moves (creator : Nat) (s : CallSession Payload) (db : Tables Payload) : Prop where
  request : ∃ row updated, db.rows s.state.call.requestId = some row ∧
    (s.publish db).rows s.state.call.requestId = some updated ∧
    updated.createdByAdminId = row.createdByAdminId ∧
    s.state.call.action.Allows row.status ∧ updated.status = s.state.call.action.target
  other : s.state.call.action = .approve → s.state.call.adminId ≠ creator
  applied : applications s.state.call.requestId (s.publish db) =
    applications s.state.call.requestId db +
      if s.state.call.action.target = .published then 1 else 0

theorem moves_of_commit {next : Execution Payload} (h : Progress creator db s)
    (hdoes : Does toUpperCase s.state (s.view db) (.commit next)) : Moves creator s db := by
  cases hdoes with
  | commits updated hstage =>
      simp only [Progress, hstage] at h
      obtain ⟨hwrites, request, row, appliedTargetId, hinserts, hchecked, hrow, hstatus, rfl⟩ := h
      refine ⟨⟨row, s.state.call.updated request appliedTargetId row, hrow, ?_,
        updated_createdBy appliedTargetId, ?_, updated_status appliedTargetId⟩, hchecked.other, ?_⟩
      · simp [Session.publish, Session.view, hwrites]
      · rw [hstatus]
        exact hchecked.allows
      · rw [applications_publish, hinserts, countP_entries]

theorem progress_after {action : Statement Payload} (h : Progress creator db s)
    (hcreator : ∀ row, db.rows s.state.call.requestId = some row →
      row.createdByAdminId = creator)
    (hfresh : FreshUpdate s.state.call.requestId s.state (s.view db))
    (hdoes : Does toUpperCase s.state (s.view db) action)
    (hcommit : ∀ next, action ≠ .commit next) : Progress creator db (s.after action) := by
  have hchecked (request : ConfigChangeRequest Payload)
      (hwrites : s.writes s.state.call.requestId = none)
      (hrow : (s.view db).rows s.state.call.requestId = some request)
      (hallowed : s.state.call.assertAllowed toUpperCase request = .ok ()) :
      Checked creator s.state.call request := by
    obtain ⟨hallows, hother⟩ := allows_of_assertAllowed hallowed
    rw [view_of_unwritten hwrites] at hrow
    refine ⟨hallows, fun happrove => ?_⟩
    rw [← hcreator request hrow]
    exact Ne.symm (hother happrove)
  cases hdoes with
  | throws error => exact ⟨rfl, rfl⟩
  | commits updated => exact absurd rfl (hcommit _)
  | readsToApply request hstage hrow hallowed =>
      simp only [Progress, hstage] at h
      exact ⟨h.1, h.2, hchecked request h.1 hrow hallowed⟩
  | readsToUpdate request hstage hrow hallowed hnothing =>
      simp only [Progress, hstage] at h
      exact ⟨h.1, h.2.trans hnothing.symm, hchecked request h.1 hrow hallowed⟩
  | applies request appliedTargetId hstage hentries =>
      simp only [Progress, hstage] at h
      obtain ⟨hwrites, hinserts, hchecked⟩ := h
      refine ⟨hwrites, ?_, hchecked⟩
      simp only [Session.after, hinserts]
      exact hentries.symm
  | updates request row appliedTargetId hstage hrow =>
      simp only [Progress, hstage] at h
      obtain ⟨hwrites, hinserts, hchecked⟩ := h
      rw [view_of_unwritten hwrites] at hrow
      simp only [FreshUpdate, hstage, forall_const, statusOf] at hfresh
      rw [view_of_unwritten hwrites, hrow] at hfresh
      refine ⟨?_, request, row, appliedTargetId, hinserts, hchecked, hrow, ?_, rfl⟩
      · simp [Session.after, Execution.at]
      · simpa using hfresh

theorem progress_publish {s' : CallSession Payload} (h : Progress creator db s)
    (hapart : s.Apart s') : Progress creator (s'.publish db) s := by
  unfold Progress at h ⊢
  cases hstage : s.state.stage with
  | commit updated =>
      simp only [hstage] at h ⊢
      obtain ⟨hwrites, request, row, appliedTargetId, hinserts, hchecked, hrow, hrest⟩ := h
      refine ⟨hwrites, request, row, appliedTargetId, hinserts, hchecked, ?_, hrest⟩
      rw [Session.publish_rows_of_apart hapart (by simp [hwrites])]
      exact hrow
  | _ => simpa only [hstage] using h

theorem shared_of_moves (hmoves : Moves creator s db)
    (hshared : (reviewed s.state.call.requestId creator).shared db) :
    (reviewed s.state.call.requestId creator).shared (s.publish db) := by
  obtain ⟨row, updated, hrow, hupdated, hcreator, hallows, hstatus⟩ := hmoves.request
  obtain ⟨hcreated, hcount⟩ := hshared
  constructor
  · intro row' hrow'
    obtain rfl := Option.some.inj (hupdated.symm.trans hrow')
    rw [hcreator]
    exact hcreated row hrow
  · have hbefore : statusOf s.state.call.requestId db ≠ some .published := by
      simpa [statusOf, hrow] using ne_published_of_allows hallows
    rw [hmoves.applied, hcount, if_neg hbefore, Nat.zero_add]
    simp [statusOf, hupdated, hstatus]

theorem reviewed_kept (toUpperCase : String → String) :
    Kept ((controlCenter toUpperCase).guarded (FreshUpdate id) : Program Nat _ _ _ _)
      (fun _ => True) (@reviewed Payload id creator) where
  begins db t call _ _ _ := by
    by_cases hid : call.requestId = id
    · simp [reviewed, Session.fresh, Program.guarded, controlCenter, hid, Progress]
    · simp [reviewed, Session.fresh, Program.guarded, controlCenter, hid]
      exact ⟨rfl, by simp⟩
  steps db t s action hshared hown hexec := by
    obtain ⟨hfresh, hexec⟩ := exec_of_guarded (FreshUpdate id) hexec
    have hdoes := does_of_exec hexec
    have hcall := call_of_does hdoes
    by_cases hid : s.state.call.requestId = id
    · subst hid
      simp only [reviewed, if_true] at hown
      simp only [reviewed, Session.after_state, hcall, if_true]
      cases action with
      | commit next =>
          refine ⟨shared_of_moves (moves_of_commit hown hdoes) hshared, ?_⟩
          cases hdoes
          exact ⟨rfl, rfl⟩
      | _ => exact ⟨hshared, progress_after hown hshared.1 hfresh hdoes (by simp)⟩
    · simp only [reviewed, hid, if_false] at hown
      simp only [reviewed, Session.after_state, hcall, hid, if_false]
      refine ⟨?_, elsewhere_after hown hid hdoes⟩
      cases action with
      | commit next =>
          obtain ⟨hrow, hcount⟩ : (s.publish db).rows id = db.rows id ∧
              applications id (s.publish db) = applications id db := hown.publish
          simp only [Action.database, statusOf, hrow, hcount]
          exact hshared
      | _ => exact hshared
  others db t t' s s' next _ _ hown _ hapart _ := by
    by_cases hid : s.state.call.requestId = id
    · simp only [reviewed, hid, if_true] at hown ⊢
      exact progress_publish hown hapart
    · simp only [reviewed, hid, if_false] at hown ⊢
      exact hown
  waiting _ _ _ _ _ _ _ _ _ _ := trivial

end Kept

/-! ## Runs -/

section Runs

variable {Payload : Type} {toUpperCase : String → String} {id creator : Nat}
  {events : List (Step Payload)} {sys sys' : Center Payload} {label : Label Nat ControlCall}

theorem request_cases (hholds : Holds (reviewed id creator) sys)
    (hstep : Steps ((controlCenter toUpperCase).guarded (FreshUpdate id)) sys label sys') :
    (sys'.committed.rows id = sys.committed.rows id ∧
        applications id sys'.committed = applications id sys.committed) ∨
      ∃ t s, label = .statement t ∧ sys.slots t = .running s ∧ s.state.call.requestId = id ∧
        Moves creator s sys.committed ∧ sys'.committed = s.publish sys.committed := by
  rcases committed_cases hstep with hsame | ⟨t, s, next, hlabel, hslot, hexec, hpublish⟩
  · exact .inl ⟨by rw [hsame], by rw [hsame]⟩
  · have hdoes := does_of_exec (exec_of_guarded (FreshUpdate id) hexec).2
    have hown := hholds.own t s hslot
    by_cases hid : s.state.call.requestId = id
    · subst hid
      simp only [reviewed, if_true] at hown
      exact .inr ⟨t, s, hlabel, hslot, rfl, moves_of_commit hown hdoes, hpublish⟩
    · simp only [reviewed, hid, if_false] at hown
      rw [hpublish]
      exact .inl hown.publish

theorem status_cases (hholds : Holds (reviewed id creator) sys)
    (hstep : Steps ((controlCenter toUpperCase).guarded (FreshUpdate id)) sys label sys') :
    statusOf id sys'.committed = statusOf id sys.committed ∨
      ∃ status status', statusOf id sys.committed = some status ∧
        statusOf id sys'.committed = some status' ∧ Follows status status' := by
  rcases request_cases hholds hstep with ⟨hrow, -⟩ | ⟨t, s, -, -, rfl, hmoves, hpublish⟩
  · exact .inl (by simp [statusOf, hrow])
  · obtain ⟨row, updated, hrow, hupdated, -, hallows, hstatus⟩ := hmoves.request
    refine .inr ⟨row.status, updated.status, by simp [statusOf, hrow], ?_, ?_⟩
    · simp [statusOf, hpublish, hupdated]
    · rw [hstatus]
      exact ControlAction.follows hallows

theorem approved_of_applies (hholds : Holds (reviewed id creator) sys)
    (hstep : Steps ((controlCenter toUpperCase).guarded (FreshUpdate id)) sys label sys')
    (happlies : Applies id ⟨sys, label, sys'⟩) :
    statusOf id sys.committed = some .approved := by
  rcases request_cases hholds hstep with ⟨-, hcount⟩ | ⟨t, s, -, -, rfl, hmoves, hpublish⟩
  · exact absurd hcount.symm happlies
  · obtain ⟨row, updated, hrow, -, -, hallows, -⟩ := hmoves.request
    have happlied := hmoves.applied
    rw [← hpublish] at happlied
    cases haction : s.state.call.action with
    | publish _ _ =>
        rw [haction] at hallows
        have hstatus : row.status = .approved := hallows
        simp [statusOf, hrow, hstatus]
    | _ =>
        rw [haction] at happlied
        have hsame : applications s.state.call.requestId sys'.committed =
            applications s.state.call.requestId sys.committed := by
          simpa [ControlAction.target] using happlied
        exact absurd hsame.symm happlies

theorem approvedByAnother_of_step (hholds : Holds (reviewed id creator) sys)
    (hstep : Steps ((controlCenter toUpperCase).guarded (FreshUpdate id)) sys label sys')
    (hbefore : statusOf id sys.committed ≠ some .approved)
    (hafter : statusOf id sys'.committed = some .approved) :
    ApprovedByAnother id ⟨sys, label, sys'⟩ := by
  rcases request_cases hholds hstep with ⟨hsame, -⟩ | ⟨t, s, hlabel, hslot, rfl, hmoves, hpublish⟩
  · exact absurd (by simpa [statusOf, hsame] using hafter) hbefore
  · obtain ⟨row, updated, hrow, hupdated, -, -, hstatus⟩ := hmoves.request
    have htarget : s.state.call.action.target = .approved := by
      simpa [statusOf, hpublish, hupdated, hstatus] using hafter
    have happrove : s.state.call.action = .approve := by
      cases haction : s.state.call.action with
      | approve => rfl
      | _ =>
          rw [haction] at htarget
          cases htarget
    refine ⟨t, s, row, hlabel, hslot, rfl, happrove, hrow, ?_, hafter⟩
    rw [hholds.shared.1 row hrow]
    exact hmoves.other happrove

theorem not_applies_of_rejected
    (hrun : Run (Steps ((controlCenter toUpperCase).guarded (FreshUpdate id))) sys events sys')
    (hholds : Holds (reviewed id creator) sys)
    (hrejected : statusOf id sys.committed = some .rejected) : ∀ e ∈ events, ¬Applies id e := by
  intro e he happlies
  have hbefore := (hrun.invariant_around
    (I := fun sys => Holds (reviewed id creator) sys ∧ statusOf id sys.committed = some .rejected)
    ?_ ⟨hholds, hrejected⟩ he).1
  · have happroved := approved_of_applies hbefore.1 (hrun.step_of_mem he) happlies
    rw [hbefore.2] at happroved
    cases happroved
  · rintro u label v ⟨hu, hstatus⟩ hstep
    refine ⟨(reviewed_kept toUpperCase).holds_step hu hstep fun _ _ _ => trivial, ?_⟩
    rcases status_cases hu hstep with hsame | ⟨status, status', hbefore, -, hfollows⟩
    · rw [hsame, hstatus]
    · obtain rfl := Option.some.inj (hbefore.symm.trans hstatus)
      cases hfollows with
      | rejected hpublished hnot => exact absurd rfl hnot

/-- **Four eyes.** A request that starts as a draft goes through its review as promised, in every
interleaving of calls whose updates of it are fresh. -/
theorem fourEyes_of_freshUpdates {db : Tables Payload} {request : ConfigChangeRequest Payload}
    (hrow : db.rows id = some request) (hdraft : request.status = .draft)
    (hnone : applications id db = 0)
    (hrun : Run (Steps (controlCenter toUpperCase)) (System.idle db) events sys)
    (hfresh : ∀ e ∈ events, Meets (FreshUpdate id) e) : FourEyes id events := by
  have hguarded := run_guarded (FreshUpdate id) hrun hfresh
  have hstatus : statusOf id db = some .draft := by simp [statusOf, hrow, hdraft]
  have hidle : Holds (reviewed id request.createdByAdminId) (System.idle db) := by
    refine holds_idle ⟨?_, by simp [hnone, hstatus]⟩ fun _ => trivial
    intro row hrow'
    rw [Option.some.inj (hrow.symm.trans hrow')]
  obtain ⟨hall, -⟩ := (reviewed_kept toUpperCase).holds_run hguarded hidle fun _ _ _ _ _ => trivial
  constructor
  · intro e he
    exact status_cases (hall e he).1 (hguarded.step_of_mem he)
  · intro e he
    rw [(hall e he).2.shared.2]
    split <;> omega
  · rintro earlier e later rfl happlies
    obtain ⟨hearlier, hstep, -⟩ := hguarded.split
    have happroved := approved_of_applies (hall e (by simp)).1 hstep happlies
    obtain ⟨before, e', between, rfl, hentrance⟩ := hearlier.exists_entrance
      (P := fun sys => statusOf id sys.committed = some .approved)
      (by simp [System.idle, hstatus]) happroved
    exact ⟨e', by simp, approvedByAnother_of_step (hall e' (by simp)).1 hentrance.enters
      hentrance.outside hentrance.inside⟩
  · rintro earlier e later rfl hrejects
    obtain ⟨-, -, hlater⟩ := hguarded.split
    exact not_applies_of_rejected hlater (hall e (by simp)).2 hrejects.2

end Runs

section Example

def maintenanceDraft : ConfigChangeRequest String :=
  { status := .draft
    targetId := none
    changePayload := "maintenanceMode"
    reason := none
    requiresSecondConfirmation := true
    createdByAdminId := 1
    submittedByAdminId := none
    approvedByAdminId := none
    rejectedByAdminId := none
    publishedByAdminId := none }

def draftTables : Tables String where
  rows id := if id = 1 then some maintenanceDraft else none
  log := []

/-- Session `t` makes its call and runs `statements` statements of it. -/
def callWith (t adminId statements : Nat) (action : ControlAction) : List (Label Nat ControlCall) :=
  .begin t ⟨1, adminId, action⟩ :: List.replicate statements (.statement t)

def publication : ControlAction :=
  .publish (some "PUBLISH 1") (.ok none)

/-- Administrator 1 submits, 2 approves and 3 publishes. -/
def reviewOnce : List (Label Nat ControlCall) :=
  callWith 0 1 3 (.submit (some "SUBMIT 1")) ++ callWith 1 2 3 .approve ++
    callWith 2 3 4 publication

/-- Administrators 3 and 4 publish, and both have read the request when the first one goes on. -/
def publishTwice : List (Label Nat ControlCall) :=
  callWith 0 1 3 (.submit (some "SUBMIT 1")) ++ callWith 1 2 3 .approve ++
    callWith 2 3 1 publication ++ callWith 3 4 1 publication ++
    List.replicate 3 (.statement 2) ++ List.replicate 3 (.statement 3)

theorem not_fourEyes_of_publishTwice :
    ∃ events sys, Run (Steps (controlCenter fun text => text)) (System.idle draftTables) events sys ∧
      applications 1 sys.committed = 2 ∧ ¬FourEyes 1 events := by
  obtain ⟨events, sys, hrun, hcheck⟩ := Run.exists_of_check
    (machine (controlCenter fun text => text)) (System.idle draftTables) publishTwice
    (fun events sys => decide (applications 1 sys.committed = 2) &&
      events.any fun e => decide (applications 1 e.after.committed = 2)) (by decide +kernel)
  obtain ⟨hend, hevent⟩ := Bool.and_eq_true_iff.mp hcheck
  obtain ⟨e, he, htwice⟩ := List.any_eq_true.mp hevent
  have htwice := of_decide_eq_true htwice
  refine ⟨events, sys, hrun, of_decide_eq_true hend, fun hfour => ?_⟩
  have honce := hfour.once e he
  omega

theorem fourEyes_reviewOnce :
    ∃ events sys, Run (Steps (controlCenter fun text => text)) (System.idle draftTables) events sys ∧
      statusOf 1 sys.committed = some .published ∧ FourEyes 1 events := by
  obtain ⟨events, sys, hrun, hcheck⟩ := Run.exists_of_check
    (machine (controlCenter fun text => text)) (System.idle draftTables) reviewOnce
    (fun events sys => decide (statusOf 1 sys.committed = some .published) &&
      decide (∀ e ∈ events, Meets (FreshUpdate 1) e)) (by decide +kernel)
  obtain ⟨hend, hfresh⟩ := Bool.and_eq_true_iff.mp hcheck
  have hrow : draftTables.rows 1 = some maintenanceDraft := rfl
  exact ⟨events, sys, hrun, of_decide_eq_true hend,
    fourEyes_of_freshUpdates hrow rfl rfl hrun (of_decide_eq_true hfresh)⟩

end Example

end RewardSystem.Control
