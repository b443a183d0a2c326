/-
Reimbursement runs (`services/reimbursement/app/schemas.py`).

A field of a draft may hold any JSON value: answers and results of the connector
are written into it as they come.  The ids of runs, approvals and write actions
are known here by their numbers.
-/

import AnnaAgent.Foundation.PythonValues
import AnnaAgent.Foundation.OrderedMap

namespace AnnaAgent.Reimbursement

open Foundation

abbrev RunId := Nat

abbrev ApprovalId := Nat

inductive RunStatus where
  | collecting
  | validating
  | draftCreated
  | waitingConfirmation
  | submitting
  | verifying
  | completed
  | failed
  | verifyPending
  deriving DecidableEq

structure AttachmentRef where
  name : String
  uri : String
  deriving DecidableEq

def AttachmentRef.dump (attachment : AttachmentRef) : Json :=
  .obj [("name", .str attachment.name), ("uri", .str attachment.uri)]

structure ReimbursementDraft where
  category : Json
  amount : Json
  currency : Json
  expenseDate : Json
  merchant : Json
  reason : Json
  departmentId : Json
  costCenterId : Json
  projectId : Json
  attachments : List AttachmentRef
  externalReimbursementId : Json
  externalStatus : Json
  deriving DecidableEq

def emptyDraft : ReimbursementDraft :=
  { category := .null
    amount := .null
    currency := .null
    expenseDate := .null
    merchant := .null
    reason := .null
    departmentId := .null
    costCenterId := .null
    projectId := .null
    attachments := []
    externalReimbursementId := .null
    externalStatus := .null }

def ReimbursementDraft.modelDump (draft : ReimbursementDraft) : Fields :=
  [("category", draft.category), ("amount", draft.amount), ("currency", draft.currency),
    ("expense_date", draft.expenseDate), ("merchant", draft.merchant), ("reason", draft.reason),
    ("department_id", draft.departmentId), ("cost_center_id", draft.costCenterId),
    ("project_id", draft.projectId),
    ("attachments", .arr (draft.attachments.map AttachmentRef.dump)),
    ("external_reimbursement_id", draft.externalReimbursementId),
    ("external_status", draft.externalStatus)]

def ReimbursementDraft.asMcpPayload (draft : ReimbursementDraft) : Fields :=
  draft.modelDump.filter (fun field => decide (field.2 ≠ .null))

inductive ApprovalStatus where
  | pending
  | approved
  | rejected
  | expired
  deriving DecidableEq

structure ApprovalRequest where
  id : ApprovalId
  runId : RunId
  actionType : String
  riskLevel : String
  status : ApprovalStatus
  payload : Fields
  payloadHash : Option String
  draftSnapshot : Option Fields
  draftSnapshotHash : Option String
  deriving DecidableEq

inductive WriteStatus where
  | success
  | failed
  deriving DecidableEq

inductive VerifyStatus where
  | verified
  | verifyPending
  | failed
  deriving DecidableEq

structure ReimbursementWriteAction where
  id : Nat
  runId : RunId
  approvalId : ApprovalId
  externalReimbursementId : String
  idempotencyKey : String
  status : WriteStatus
  verifyStatus : VerifyStatus
  approvalPayloadHash : Option String
  draftSnapshotHash : Option String
  deriving DecidableEq

structure AuditEvent where
  kind : String
  payload : Fields
  deriving DecidableEq

structure ReimbursementRun where
  id : RunId
  workspaceId : String
  actorUserId : String
  status : RunStatus
  draft : ReimbursementDraft
  missingFields : List String
  agentMessage : Option String
  approval : Option ApprovalRequest
  writeAction : Option ReimbursementWriteAction
  auditEvents : List AuditEvent
  errorCode : Option String
  errorMessage : Option String
  deriving DecidableEq

def newRun (id : RunId) (workspaceId actorUserId : String) (attachments : List AttachmentRef) :
    ReimbursementRun :=
  { id := id
    workspaceId := workspaceId
    actorUserId := actorUserId
    status := .validating
    draft := { emptyDraft with attachments := attachments }
    missingFields := []
    agentMessage := none
    approval := none
    writeAction := none
    auditEvents := []
    errorCode := none
    errorMessage := none }

def ReimbursementRun.audited (run : ReimbursementRun) (kind : String) (payload : Fields) :
    ReimbursementRun :=
  { run with auditEvents := run.auditEvents ++ [⟨kind, payload⟩] }

def ReimbursementRun.failRun (run : ReimbursementRun) (errorCode message : String) :
    ReimbursementRun :=
  { run with
    status := .failed
    errorCode := some errorCode
    errorMessage := some message }.audited "reimbursement.failed"
      [("error_code", .str errorCode), ("message", .str message)]

/-- `ReimbursementMcpError`. -/
structure McpError where
  errorCode : String
  message : String
  retryable : Bool
  field : Option String

def McpError.asContract (error : McpError) : Fields :=
  [("error_code", .str error.errorCode), ("message", .str error.message),
    ("retryable", .bool error.retryable)] ++
      (match error.field with
      | some field => if field = "" then [] else [("field", .str field)]
      | none => [])

abbrev Answer := Except McpError Fields

/-- What the code takes from its libraries: the JSON values of Python, the
SHA-256 hash of a payload, and what `model_validate` reads. -/
structure Environment extends PythonReading where
  hashPayload : Fields → String
  /-- `ReimbursementDraft.model_validate`; `none` is a `ValidationError`. -/
  validateDraft : Fields → Option ReimbursementDraft
  /-- `AttachmentRef.model_validate`. -/
  validateAttachment : Json → Option AttachmentRef
  /-- The id of what `ApprovalRequest.model_validate` reads. -/
  validateApprovalId : Fields → Option ApprovalId
  /-- The text of the `ValidationError` of a dict. -/
  validationText : Fields → String
  /-- The draft of a stored run as it is read again. -/
  reloadDraft : ReimbursementDraft → Option ReimbursementDraft

namespace Environment

variable (env : Environment)

def draftHash (draft : Fields) : String := env.hashPayload [("draft", .obj draft)]

def approvalPayloadHash (payload : Fields) : String :=
  env.hashPayload [("approval_payload", .obj payload)]

end Environment

def draftOfFields (fields : Fields) : ReimbursementDraft :=
  { category := Fields.get fields "category"
    amount := Fields.get fields "amount"
    currency := Fields.get fields "currency"
    expenseDate := Fields.get fields "expense_date"
    merchant := Fields.get fields "merchant"
    reason := Fields.get fields "reason"
    departmentId := Fields.get fields "department_id"
    costCenterId := Fields.get fields "cost_center_id"
    projectId := Fields.get fields "project_id"
    attachments := []
    externalReimbursementId := Fields.get fields "external_reimbursement_id"
    externalStatus := Fields.get fields "external_status" }

/-- An environment to run the code in: natural numbers are read by their digits, and a
payload is its own hash. -/
def plainEnvironment : Environment :=
  { number := fun number =>
      (number.text.toList.foldl (fun value digit => 10 * value + (digit.toNat - 48)) 0 : Nat)
    floatOfText := fun _ => none
    textOf := fun value => String.ofList value.chars
    hashPayload := fun payload => String.ofList (Json.obj payload).chars
    validateDraft := fun fields => some (draftOfFields fields)
    validateAttachment := fun _ => none
    validateApprovalId := fun _ => none
    validationText := fun _ => ""
    reloadDraft := some }

def ReimbursementRun.recordToolCalled (env : Environment) (run : ReimbursementRun)
    (toolName : String) (input : Fields) (status : String) (error : Option McpError) :
    ReimbursementRun :=
  run.audited "mcp.tool.called"
    ([("tool_name", .str toolName), ("input_hash", .str (env.hashPayload input)),
      ("status", .str status)] ++
        (match error with
        | some error => [("error", .obj error.asContract)]
        | none => []))

end AnnaAgent.Reimbursement
