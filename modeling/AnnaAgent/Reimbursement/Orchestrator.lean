/-
The reimbursement orchestrator (`services/reimbursement/app/orchestrator.py`,
`services/reimbursement/app/state_store.py`).

A run is an object of the process.  Two maps lead to it, by its id and by the
ids of its approvals, and the store keeps the copies that were saved.  The
functions on a run stand apart from the maps, so that a call of the connector
can lie between any two of them.
-/

import AnnaAgent.Reimbursement.Capability

namespace AnnaAgent.Reimbursement

open Foundation Fields

/-- An object of the process. -/
abbrev Ref := Nat

structure Orchestrator where
  objects : List ReimbursementRun
  runsById : OrderedMap RunId Ref
  runsByApprovalId : OrderedMap ApprovalId Ref
  stored : OrderedMap RunId ReimbursementRun
  runSequence : Nat
  approvalSequence : Nat
  writeSequence : Nat

variable (env : Environment)

namespace Orchestrator

variable (orchestrator : Orchestrator)

def modify (ref : Ref) (assign : ReimbursementRun → ReimbursementRun) : Orchestrator :=
  { orchestrator with objects := orchestrator.objects.modify ref assign }

def rememberRun (ref : Ref) (run : ReimbursementRun) : Orchestrator :=
  { orchestrator with
    runsById := orchestrator.runsById.set run.id ref
    runsByApprovalId :=
      match run.approval with
      | some approval => orchestrator.runsByApprovalId.set approval.id ref
      | none => orchestrator.runsByApprovalId }

def saveAndReturn (ref : Ref) : Orchestrator :=
  match orchestrator.objects[ref]? with
  | none => orchestrator
  | some run =>
    { orchestrator.rememberRun ref run with stored := orchestrator.stored.set run.id run }

/-- A stored run becomes an object of the process; `none` is an exception. -/
def load (row : ReimbursementRun) : Option (Orchestrator × Ref) :=
  (env.reloadDraft row.draft).map (fun draft =>
    let run := { row with draft := draft }
    let ref := orchestrator.objects.length
    ({ orchestrator with objects := orchestrator.objects ++ [run] }.rememberRun ref run, ref))

def getRun (runId : RunId) : Option (Orchestrator × Ref) :=
  match orchestrator.runsById.get? runId with
  | some ref => some (orchestrator, ref)
  | none => (orchestrator.stored.get? runId).bind (orchestrator.load env)

/-- `get_run_by_approval_id` of the store. -/
def storedByApprovalId (approvalId : ApprovalId) : Option ReimbursementRun :=
  orchestrator.stored.values.find? (fun run =>
    decide (run.approval.map ApprovalRequest.id = some approvalId))

def getRunByApprovalId (approvalId : ApprovalId) : Option (Orchestrator × Ref) :=
  match orchestrator.runsByApprovalId.get? approvalId with
  | some ref => some (orchestrator, ref)
  | none => (orchestrator.storedByApprovalId approvalId).bind (orchestrator.load env)

def beginRun (workspaceId actorUserId : String) (attachments : List AttachmentRef) :
    Orchestrator :=
  let runId := orchestrator.runSequence + 1
  let ref := orchestrator.objects.length
  { orchestrator with
    objects := orchestrator.objects ++ [newRun runId workspaceId actorUserId attachments]
    runsById := orchestrator.runsById.set runId ref
    runSequence := runId }

/-- The process ends and another one starts on the same store. -/
def restart : Orchestrator :=
  { orchestrator with
    objects := []
    runsById := OrderedMap.empty
    runsByApprovalId := OrderedMap.empty }

end Orchestrator

def userEditableDraftFields : List String :=
  ["category", "amount", "currency", "expense_date", "merchant", "reason", "department_id",
    "cost_center_id", "project_id", "attachments"]

/-- `setattr(draft, field, value)`. -/
def setDraftField (draft : ReimbursementDraft) (field : String) (value : Json) :
    ReimbursementDraft :=
  match field with
  | "category" => { draft with category := value }
  | "amount" => { draft with amount := value }
  | "currency" => { draft with currency := value }
  | "expense_date" => { draft with expenseDate := value }
  | "merchant" => { draft with merchant := value }
  | "reason" => { draft with reason := value }
  | "department_id" => { draft with departmentId := value }
  | "cost_center_id" => { draft with costCenterId := value }
  | "project_id" => { draft with projectId := value }
  | _ => draft

/-- One turn of the loop of `_apply_answers`; `none` is an exception. -/
def applyAnswer (draft : ReimbursementDraft) (field : String) (value : Json) :
    Option ReimbursementDraft :=
  if field ≠ "attachments" then some (setDraftField draft field value)
  else
    match value with
    | .arr items =>
      match items.mapM env.validateAttachment with
      | none => none
      | some attachments =>
        if attachments.all AttachmentRef.isImported = true then
          some { draft with attachments := attachments }
        else none
    | _ => none

/-- The draft as the answers leave it, and whether all of them were taken. -/
def applyAnswers (draft : ReimbursementDraft) : Fields → ReimbursementDraft × Bool
  | [] => (draft, true)
  | (field, value) :: rest =>
    match applyAnswer env draft field value with
    | none => (draft, false)
    | some answered => applyAnswers answered rest

def recordAnswers (run : ReimbursementRun) (answers : Fields) : ReimbursementRun :=
  if answers.all (fun field => decide (field.1 ∈ userEditableDraftFields)) = false then run
  else
    match applyAnswers env run.draft answers with
    | (draft, false) => { run with draft := draft }
    | (draft, true) =>
      { run with
        draft := draft
        status := .validating }.audited "reimbursement.answers.received"
          [("answered_fields", .arr ((answers.map Prod.fst).mergeSort.map Json.str))]

/-- `_derive_business_status`; `none` is a `ValueError`. -/
def deriveBusinessStatus (run : ReimbursementRun) : Option RunStatus :=
  let facts : Option RunStatus :=
    if (run.approval.map ApprovalRequest.status) = some .pending then some .waitingConfirmation
    else if run.missingFields ≠ [] then some .collecting
    else if env.truthy run.draft.externalReimbursementId = true then some .draftCreated
    else if run.status = .validating ∨ run.status = .collecting then some .collecting
    else none
  match run.writeAction with
  | none => facts
  | some action =>
    if action.status = .failed then some .failed
    else if action.verifyStatus = .verified then
      if env.truthy run.draft.externalReimbursementId = true ∧
          env.truthy run.draft.externalStatus = true then some .completed
      else some .verifyPending
    else if action.verifyStatus = .verifyPending then some .verifyPending
    else facts

def hostStatusInvalid : String := "harness_result_invalid"

/-- The user fields of the draft of a host result; `none` is a `ValidationError`. -/
def proposedDraft (run : ReimbursementRun) (result : Fields) : Option ReimbursementRun :=
  match get result "draft" with
  | .obj draft =>
    let proposed := draft.filter (fun field => decide (field.1 ∈ userEditableDraftFields))
    if proposed = [] then some run
    else
      (env.validateDraft (proposed.foldl Json.setField run.draft.modelDump)).map
        (fun draft => { run with draft := draft })
  | _ => some run

def texts (values : List Json) : List String :=
  values.filterMap (fun value =>
    match value with
    | .str text => some text
    | _ => none)

def resultAnswer (result : Fields) : Json :=
  if get result "answer" = .null then get result "agent_message"
  else get result "answer"

def hostApprovalError (run : ReimbursementRun) (result : Fields) : Option String :=
  match get result "approval" with
  | .obj approval =>
    match env.validateApprovalId approval with
    | none => some (env.validationText approval)
    | some approvalId =>
      if run.approval.map ApprovalRequest.id = some approvalId then none
      else some "Host approval must be created by the business adapter"
  | _ => none

/-- The projection of a completed host run.  A run has no field `answer`, so that a
text for it is a `ValueError`. -/
def applyCompletedResult (run : ReimbursementRun) (result : Fields) : ReimbursementRun :=
  match proposedDraft env run result with
  | none => run.failRun hostStatusInvalid (env.validationText result)
  | some drafted =>
    let missing :=
      match get result "missing_fields" with
      | .arr items => { drafted with missingFields := texts items }
      | _ => drafted
    match resultAnswer result with
    | .str _ =>
      missing.failRun hostStatusInvalid "\"ReimbursementRun\" object has no field \"answer\""
    | _ =>
      match hostApprovalError env missing result with
      | some message => missing.failRun hostStatusInvalid message
      | none =>
        match deriveBusinessStatus env missing with
        | none => missing.failRun hostStatusInvalid "Host result omitted reimbursement state"
        | some status =>
          { missing with status := status }.audited "harness.task.completed"
            [("surface", .str "reimbursement")]

def firstText (values : List Json) (fallback : String) : String :=
  match values.find? env.truthy with
  | some value => env.text value
  | none => fallback

/-- `apply_host_result` before the run is saved; `none` is a `ValueError`. -/
def applyHostResult (run : ReimbursementRun) (result : Fields) (hostStatus : String) :
    Option ReimbursementRun :=
  if hostStatus ∈ ["queued", "running", "resumed"] then some run
  else if hostStatus ∈ ["awaiting_input", "awaiting_approval"] then
    match deriveBusinessStatus env run with
    | some status => some { run with status := status }
    | none =>
      some (run.failRun hostStatusInvalid
        "Host parked reimbursement without a business pause fact")
  else if hostStatus ∉ ["completed", "succeeded"] then
    match deriveBusinessStatus env run with
    | none => none
    | some status =>
      if status ≠ .completed ∧ status ≠ .verifyPending then
        some (run.failRun
          (firstText env [get result "error_code", get result "code"]
            "harness_task_failed")
          (firstText env [get result "error_message", get result "message"]
            "Harness Host reimbursement task failed"))
      else some { run with status := status }
  else some (applyCompletedResult env run result)

/-! ### The decision -/

def lastSubmitFailureRetryable (run : ReimbursementRun) : Bool :=
  match run.auditEvents.reverse.find? (fun event =>
    decide (event.kind = "mcp.tool.called" ∧
      get event.payload "tool_name" = .str "reimbursement.submit")) with
  | none => false
  | some event =>
    decide (get event.payload "status" = .str "failed") &&
      (match get event.payload "error" with
      | .obj error => decide (get error "retryable" = .bool true)
      | _ => false)

def payloadMatches (approval : ApprovalRequest) (draft : ReimbursementDraft) : Bool :=
  env.same (get approval.payload "external_reimbursement_id")
      draft.externalReimbursementId &&
    env.same (get approval.payload "amount") draft.amount &&
      env.same (get approval.payload "currency") draft.currency &&
        env.same (get approval.payload "reason") draft.reason

def approvalPayloadMatchesCurrentDraft (approval : ApprovalRequest) (draft : ReimbursementDraft) :
    Bool :=
  let hasHash := approval.draftSnapshotHash.isSome && decide (approval.draftSnapshotHash ≠ some "")
  if approval.actionType ≠ "reimbursement.submit" then false
  else if approval.payloadHash ≠ none ∧ approval.payloadHash ≠ some "" ∧
      approval.payloadHash ≠ some (env.approvalPayloadHash approval.payload) then false
  else if hasHash = true ∧ approval.draftSnapshot.isSome = true ∧
      approval.draftSnapshotHash ≠ approval.draftSnapshot.map env.draftHash then false
  else if hasHash = true ∧ approval.draftSnapshotHash ≠ some (env.draftHash draft.asMcpPayload) then
    false
  else
    match approval.draftSnapshot with
    | none => payloadMatches env approval draft
    | some snapshot =>
      env.same (.obj snapshot) (.obj draft.asMcpPayload) && payloadMatches env approval draft

/-- The approval with which `approve_submit` goes on to the submission; on every
other way it returns the run or raises a `ValueError`. -/
def submittable (run : ReimbursementRun) : Option ApprovalRequest :=
  match run.approval with
  | none => none
  | some approval =>
    if run.writeAction.isSome = true then none
    else if approval.status ≠ .pending ∧ approval.status ≠ .approved then none
    else if approval.status = .approved ∧ lastSubmitFailureRetryable run = false then none
    else if env.truthy run.draft.externalReimbursementId = false then none
    else if approvalPayloadMatchesCurrentDraft env approval run.draft = false then none
    else some approval

/-- The arguments of `adapter.submit`, and the draft that they are taken from. -/
structure Submission where
  workspaceId : String
  actorUserId : String
  sourceRunId : RunId
  confirmationId : ApprovalId
  approval : ApprovalRequest
  draft : ReimbursementDraft

/-- The call of `adapter.submit` for a run. -/
def submission (run : ReimbursementRun) (approval : ApprovalRequest) : Submission :=
  { workspaceId := run.workspaceId
    actorUserId := run.actorUserId
    sourceRunId := run.id
    confirmationId := approval.id
    approval := approval
    draft := run.draft }

/-- The run before `adapter.submit` is called. -/
def openSubmit (run : ReimbursementRun) (approval : ApprovalRequest) (approvalId : ApprovalId)
    (approvedBy : String) : ReimbursementRun :=
  let kind :=
    if approval.status = .pending then "approval.approved" else "approval.submit.retry_requested"
  { run with
    approval := some { approval with status := .approved }
    status := .submitting }.audited kind
      [("approval_id", .num (JsonNumber.ofNat approvalId)), ("approved_by", .str approvedBy),
        ("approval_payload_hash", hashText approval.payloadHash),
        ("draft_snapshot_hash", hashText approval.draftSnapshotHash)]

def failToolCall (run : ReimbursementRun) (toolName : String) (input : Fields) (error : McpError) :
    ReimbursementRun :=
  (run.recordToolCalled env toolName input "failed" (some error)).failRun error.errorCode
    error.message

def submitInput (run : ReimbursementRun) : Fields :=
  [("approval_id", match run.approval with
    | some approval => .num (JsonNumber.ofNat approval.id)
    | none => .null),
    ("external_reimbursement_id", run.draft.externalReimbursementId)]

def writeActionFor (run : ReimbursementRun) (approvalId : ApprovalId) (writeId : Nat)
    (externalId : String) : ReimbursementWriteAction :=
  { id := writeId
    runId := run.id
    approvalId := approvalId
    externalReimbursementId := externalId
    idempotencyKey := "idem_run_" ++ toString run.id ++ "_submit"
    status := .success
    verifyStatus := .verifyPending
    approvalPayloadHash := run.approval.bind ApprovalRequest.payloadHash
    draftSnapshotHash := run.approval.bind ApprovalRequest.draftSnapshotHash }

/-- The run after a result of `adapter.submit`, and whether it goes on to the
readback; otherwise the result is an exception. -/
def submitReceived (run : ReimbursementRun) (approvalId : ApprovalId) (writeId : Nat)
    (result : Fields) : ReimbursementRun × Bool :=
  let called := run.recordToolCalled env "reimbursement.submit" (submitInput run) "success" none
  match result.lookup "external_reimbursement_id" with
  | none => (called, false)
  | some externalId =>
    let identified :=
      { called with draft := { called.draft with externalReimbursementId := externalId } }
    match result.lookup "external_status" with
    | none => (identified, false)
    | some externalStatus =>
      let drafted :=
        { identified with draft := { identified.draft with externalStatus := externalStatus } }
      match externalId with
      | .str text =>
        let action := writeActionFor drafted approvalId writeId text
        ({ drafted with writeAction := some action }.audited "reimbursement.submitted"
          [("approval_id", get (submitInput run) "approval_id"),
            ("write_action_id", .num (JsonNumber.ofNat writeId)),
            ("approval_payload_hash", hashText action.approvalPayloadHash),
            ("draft_snapshot_hash", hashText action.draftSnapshotHash),
            ("external_reimbursement_id", externalId), ("external_status", externalStatus)],
          true)
      | _ => (drafted, false)

/-- Whether `retry_verify` goes on to the readback. -/
def verifiable (run : ReimbursementRun) : Bool :=
  run.writeAction.isSome && env.truthy run.draft.externalReimbursementId

def verifyReceived (run : ReimbursementRun) (answer : Answer) : ReimbursementRun :=
  let input : Fields := [("external_reimbursement_id", run.draft.externalReimbursementId)]
  match answer with
  | .error error => failToolCall env run "reimbursement.get_status" input error
  | .ok status =>
    let called := run.recordToolCalled env "reimbursement.get_status" input "success" none
    let readbackId := get status "external_reimbursement_id"
    let readbackStatus := get status "external_status"
    let isVerified := env.same readbackId run.draft.externalReimbursementId &&
      env.same readbackStatus run.draft.externalStatus
    let action := run.writeAction.map (fun action =>
      { action with verifyStatus := if isVerified = true then .verified else .verifyPending })
    { called with
      writeAction := action
      status := if isVerified = true then .completed else .verifyPending }.audited
        "reimbursement.verified"
        [("external_reimbursement_id", run.draft.externalReimbursementId),
          ("external_status", run.draft.externalStatus),
          ("readback_external_reimbursement_id", readbackId),
          ("readback_external_status", readbackStatus),
          ("verify_status", .str (if isVerified = true then "verified" else "verify_pending"))]

/-- Whether `reject_submit` goes on to the rejection. -/
def rejectable (run : ReimbursementRun) : Option ApprovalRequest :=
  match run.approval with
  | none => none
  | some approval => if approval.status = .pending then some approval else none

def rejectedRun (run : ReimbursementRun) (approval : ApprovalRequest) (approvalId : ApprovalId)
    (rejectedBy : String) : ReimbursementRun :=
  { run with
    approval := some { approval with status := .rejected }
    status := .draftCreated }.audited "approval.rejected"
      [("approval_id", .num (JsonNumber.ofNat approvalId)), ("rejected_by", .str rejectedBy)]

namespace Orchestrator

variable (orchestrator : Orchestrator)

def retryVerify (runId : RunId) (answer : Answer) : Orchestrator :=
  match orchestrator.getRun env runId with
  | none => orchestrator
  | some (found, ref) =>
    match found.objects[ref]? with
    | none => found
    | some run =>
      if verifiable env run = true then
        (found.modify ref (fun run =>
          verifyReceived env { run with status := .verifying } answer)).saveAndReturn ref
      else found

/-- `approve_submit` once the run is found and its checks have passed. -/
def submitApproved (ref : Ref) (run : ReimbursementRun) (approval : ApprovalRequest)
    (approvalId : ApprovalId) (approvedBy : String) (submitAnswer verifyAnswer : Answer) :
    Orchestrator :=
  let opened := openSubmit run approval approvalId approvedBy
  match submitAnswer with
  | .error error =>
    let failed := failToolCall env opened "reimbursement.submit" (submitInput opened) error
    (orchestrator.modify ref (fun _ => failed)).saveAndReturn ref
  | .ok result =>
    let writeId := orchestrator.writeSequence + 1
    match submitReceived env opened approvalId writeId result with
    | (received, false) => orchestrator.modify ref (fun _ => received)
    | (received, true) =>
      { orchestrator.modify ref (fun _ => received) with
        writeSequence := writeId }.retryVerify env run.id verifyAnswer

def approveSubmit (approvalId : ApprovalId) (approvedBy : String)
    (submitAnswer verifyAnswer : Answer) : Orchestrator :=
  match orchestrator.getRunByApprovalId env approvalId with
  | none => orchestrator
  | some (found, ref) =>
    match found.objects[ref]? with
    | none => found
    | some run =>
      match submittable env run with
      | none => found
      | some approval =>
        found.submitApproved env ref run approval approvalId approvedBy submitAnswer verifyAnswer

def rejectSubmit (approvalId : ApprovalId) (rejectedBy : String) : Orchestrator :=
  match orchestrator.getRunByApprovalId env approvalId with
  | none => orchestrator
  | some (found, ref) =>
    match found.objects[ref]? with
    | none => found
    | some run =>
      match rejectable run with
      | none => found
      | some approval =>
        (found.modify ref (fun _ =>
          rejectedRun run approval approvalId rejectedBy)).saveAndReturn ref

/-- A tool call of the model on a run.  An approval that it creates is found by its id
from then on. -/
def toolCalled (ref : Ref) (requiredFields : List String) (toolName : String) (arguments : Fields)
    (answer : Answer) : Orchestrator :=
  match orchestrator.objects[ref]? with
  | none => orchestrator
  | some run =>
    let approvalId := orchestrator.approvalSequence + 1
    let after := (dispatchTool env run requiredFields toolName arguments approvalId answer).1
    if toolName = "reimbursement.submit_intent" ∧
        (requestedApproval env run arguments approvalId).isSome = true then
      { orchestrator.modify ref (fun _ => after) with
        approvalSequence := approvalId
        runsByApprovalId := orchestrator.runsByApprovalId.set approvalId ref }
    else orchestrator.modify ref (fun _ => after)

end Orchestrator

end AnnaAgent.Reimbursement
