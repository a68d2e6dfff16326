import RewardSystem.Lib.ReadCommitted
import RewardSystem.Shared.Errors
import RewardSystem.Shared.Text

/-!
# Change requests of the control center

A configuration change is drafted, submitted, approved and published, or rejected. Each call is a
transaction that reads the request, checks its status and updates it by its id, one SQL statement a
step.
-/

namespace RewardSystem.Control

open ReadCommitted

inductive ChangeRequestStatus where
  | draft
  | pendingApproval
  | approved
  | rejected
  | published
  deriving DecidableEq, Repr

/-- A row of `config_change_requests`; `Payload` is what a draft wants to change. -/
structure ConfigChangeRequest (Payload : Type) where
  status : ChangeRequestStatus
  targetId : Option Nat
  changePayload : Payload
  reason : Option String
  requiresSecondConfirmation : Bool
  createdByAdminId : Nat
  submittedByAdminId : Option Nat
  approvedByAdminId : Option Nat
  rejectedByAdminId : Option Nat
  publishedByAdminId : Option Nat
  deriving DecidableEq, Repr

/-- What `applyChangeRequest` has written to the configuration. -/
structure AppliedChange (Payload : Type) where
  requestId : Nat
  changePayload : Payload
  adminId : Nat
  deriving DecidableEq, Repr

/-- `applied` is the answer of `applyChangeRequest`, the target of the change or an error. -/
inductive ControlAction where
  | submit (confirmationText : Option String)
  | approve
  | reject (reason : Option String)
  | publish (confirmationText : Option String) (applied : Except ApiError (Option Nat))

structure ControlCall where
  requestId : Nat
  adminId : Nat
  action : ControlAction

inductive Stage (Payload : Type) where
  | readRequest
  | apply (request : ConfigChangeRequest Payload)
  | update (request : ConfigChangeRequest Payload) (appliedTargetId : Option Nat)
  | commit (updated : ConfigChangeRequest Payload)
  | answered (result : Except ApiError (ConfigChangeRequest Payload))

structure Execution (Payload : Type) where
  call : ControlCall
  stage : Stage Payload

section Calls

variable {Payload : Type} (toUpperCase : String → String)

abbrev Tables (Payload : Type) : Type :=
  Database (fun _ : Nat => ConfigChangeRequest Payload) (AppliedChange Payload)

abbrev Statement (Payload : Type) : Type :=
  Action (fun _ : Nat => ConfigChangeRequest Payload) (AppliedChange Payload) (Execution Payload)

def buildConfirmationPhrase (action : String) (requestId : Nat) : String :=
  action ++ " " ++ toString requestId

def assertConfirmationPhrase (request : ConfigChangeRequest Payload) (requestId : Nat)
    (action : String) (confirmationText : Option String) : Except ApiError Unit :=
  let expected := buildConfirmationPhrase action requestId
  let actual := (confirmationText.map fun text => toUpperCase (trim text)).getD ""
  ApiError.throwIf (request.requiresSecondConfirmation = true ∧ actual ≠ expected)
    (.conflict ("Second confirmation required. Enter \"" ++ expected ++ "\"."))

def normalizeReason (value : Option String) : Option String :=
  normalizeOptionalString value

def ControlCall.assertAllowed (call : ControlCall) (request : ConfigChangeRequest Payload) :
    Except ApiError Unit :=
  match call.action with
  | .submit confirmationText => do
      ApiError.throwIf (request.status ≠ .draft) (.conflict "Only draft requests can be submitted.")
      assertConfirmationPhrase toUpperCase request call.requestId "SUBMIT" confirmationText
  | .approve => do
      ApiError.throwIf (request.status ≠ .pendingApproval)
        (.conflict "Only pending requests can be approved.")
      ApiError.throwIf (request.createdByAdminId = call.adminId)
        (.conflict "The requester cannot approve their own config change.")
  | .reject _ =>
      ApiError.throwIf (request.status = .published ∨ request.status = .rejected)
        (.conflict "The request is already finalized.")
  | .publish confirmationText _ => do
      ApiError.throwIf (request.status ≠ .approved)
        (.conflict "Only approved requests can be published.")
      assertConfirmationPhrase toUpperCase request call.requestId "PUBLISH" confirmationText

/-- The row of the UPDATE; `request` is the row that was read, `row` the one that is updated. -/
def ControlCall.updated (call : ControlCall) (request : ConfigChangeRequest Payload)
    (appliedTargetId : Option Nat) (row : ConfigChangeRequest Payload) :
    ConfigChangeRequest Payload :=
  match call.action with
  | .submit _ =>
      { row with status := .pendingApproval, submittedByAdminId := some call.adminId }
  | .approve => { row with status := .approved, approvedByAdminId := some call.adminId }
  | .reject reason =>
      { row with
        status := .rejected
        rejectedByAdminId := some call.adminId
        reason := (normalizeReason reason).or request.reason }
  | .publish _ _ =>
      { row with
        status := .published
        targetId := appliedTargetId.or request.targetId
        publishedByAdminId := some call.adminId }

def ControlCall.notFound (call : ControlCall) : ApiError :=
  .notFound ("Config change request " ++ toString call.requestId ++ " not found.")

def Execution.at (x : Execution Payload) (stage : Stage Payload) : Execution Payload :=
  { x with stage := stage }

namespace Execution

variable (x : Execution Payload)

def throw (error : ApiError) : Option (Statement Payload) :=
  some (.rollback (x.at (.answered (.error error))))

/-- One statement of `submitControlChangeRequest`, `approveControlChangeRequest`,
`rejectControlChangeRequest` and `publishControlChangeRequest`. -/
def exec (db : Tables Payload) : Option (Statement Payload) :=
  match x.stage with
  | .readRequest =>
      match db.rows x.call.requestId with
      | none => x.throw x.call.notFound
      | some request =>
          match x.call.assertAllowed toUpperCase request with
          | .error error => x.throw error
          | .ok () =>
              match x.call.action with
              | .publish _ _ => some (.goto (x.at (.apply request)))
              | _ => some (.goto (x.at (.update request none)))
  | .apply request =>
      match x.call.action with
      | .publish _ (.error error) => x.throw error
      | .publish _ (.ok appliedTargetId) =>
          some (.insert ⟨x.call.requestId, request.changePayload, x.call.adminId⟩
            (x.at (.update request appliedTargetId)))
      | _ => none
  | .update request appliedTargetId =>
      match db.rows x.call.requestId with
      -- `mapChangeRequestRecord(undefined)`
      | none => x.throw (.internalInvariant "Cannot read properties of undefined")
      | some row =>
          let updated := x.call.updated request appliedTargetId row
          some (.write x.call.requestId updated (x.at (.commit updated)))
  | .commit updated => some (.commit (x.at (.answered (.ok updated))))
  | .answered _ => none

end Execution

/-- Every session makes one call. -/
def controlCenter : Program Nat (fun _ : Nat => ConfigChangeRequest Payload)
    (AppliedChange Payload) (Execution Payload) ControlCall where
  start call := ⟨call, .readRequest⟩
  exec _ x db := x.exec toUpperCase db

end Calls

end RewardSystem.Control
