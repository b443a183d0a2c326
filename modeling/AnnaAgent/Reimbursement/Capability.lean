/-
The tools of a reimbursement run (`services/reimbursement/app/capability.py`).

A tool call changes the run and ends in an observation, a pause, a failure of
the run or another exception.  What the connector answers to a call is handed
in; it covers the attachments that cannot be read for the connector.
-/

import AnnaAgent.Reimbursement.Schemas

namespace AnnaAgent.Reimbursement

open Foundation Fields

inductive Dispatched where
  | observed (result : Fields)
  /-- `CapabilitySuspend`. -/
  | suspended (reason : String) (detail : Fields)
  /-- `CapabilityError`. -/
  | failed (errorCode message : String)
  | raised

/-- A tool call on its way: the run and the arguments may be changed by a check. -/
inductive Checked where
  | passed
  | refused (errorCode message : String)
  | raised

def allowedTools : List String :=
  ["reimbursement.get_capabilities", "reimbursement.get_policy", "reimbursement.validate_draft",
    "reimbursement.create_draft", "reimbursement.submit_intent", "reimbursement.get_status",
    "reimbursement.list_approvals", "reimbursement.get_approval", "reimbursement.approve_intent",
    "reimbursement.reject_intent"]

def externalStateFields : List String := ["external_reimbursement_id", "external_status"]

def submitIntentContextFields : List String :=
  ["amount", "currency", "reason", "policy_summary", "risk_level"]

/-- `arguments.get("draft", arguments)`. -/
def draftArgument (arguments : Fields) : Json := (arguments.lookup "draft").getD (.obj arguments)

variable (env : Environment)

def injectAuthoritativeContext (run : ReimbursementRun) (arguments : Fields) : Fields :=
  match run.auditEvents.reverse.find? (fun event =>
    decide (event.kind = "reimbursement.draft.validated")) with
  | none => arguments
  | some event =>
    let policySummary := get event.payload "policy_summary"
    let riskLevel := get event.payload "risk_level"
    let arguments :=
      if policySummary = .null then arguments
      else Json.setField arguments ("policy_summary", policySummary)
    if riskLevel = .null then arguments else Json.setField arguments ("risk_level", riskLevel)

def hasVerifiedApprovalContext (run : ReimbursementRun) (policySummary riskLevel : String) : Bool :=
  run.auditEvents.any (fun event =>
    decide (event.kind = "reimbursement.draft.validated" ∧
      get event.payload "policy_summary" = .str policySummary ∧
        get event.payload "risk_level" = .str riskLevel))

def submitIntentError (run : ReimbursementRun) (arguments : Fields) : Checked :=
  if env.truthy run.draft.externalReimbursementId = false then
    .refused "external_reimbursement_id_required"
      "external draft id is required before submit intent"
  else if run.draft.externalReimbursementId ≠
      .str (env.text ((arguments.lookup "external_reimbursement_id").getD (.str ""))) then
    .refused "external_reimbursement_id_mismatch"
      "submit intent external id must match the current draft"
  else if submitIntentContextFields.any (fun field =>
      env.truthy (get arguments field) = false) then
    .refused "submit_intent_context_required"
      "submit intent must include approval review context"
  else
    match env.float (get arguments "amount") with
    | none => .raised
    | some amount =>
      if env.isNumber amount run.draft.amount = false then
        .refused "submit_intent_context_mismatch"
          "submit intent amount must match the current draft"
      else if run.draft.currency ≠ .str (env.text (get arguments "currency")) then
        .refused "submit_intent_context_mismatch"
          "submit intent currency must match the current draft"
      else if run.draft.reason ≠ .str (env.text (get arguments "reason")) then
        .refused "submit_intent_context_mismatch"
          "submit intent reason must match the current draft"
      else if hasVerifiedApprovalContext run
          (env.text (get arguments "policy_summary"))
          (env.text (get arguments "risk_level")) = false then
        .refused "submit_intent_context_unverified"
          "submit intent approval context must match validation results"
      else .passed

def createApproval (run : ReimbursementRun) (arguments : Fields) (approvalId : ApprovalId) :
    ApprovalRequest :=
  let snapshot := run.draft.asMcpPayload
  let payload : Fields :=
    [("external_reimbursement_id", run.draft.externalReimbursementId),
      ("amount", get arguments "amount"), ("currency", get arguments "currency"),
      ("reason", get arguments "reason"),
      ("policy_summary", get arguments "policy_summary")]
  { id := approvalId
    runId := run.id
    actionType := "reimbursement.submit"
    riskLevel := env.text (get arguments "risk_level")
    status := .pending
    payload := payload
    payloadHash := some (env.approvalPayloadHash payload)
    draftSnapshot := some snapshot
    draftSnapshotHash := some (env.draftHash snapshot) }

def hashText (hash : Option String) : Json :=
  match hash with
  | some text => .str text
  | none => .null

/-- What `_dispatch_submit_intent` does once the arguments have passed. -/
def requestApproval (run : ReimbursementRun) (arguments : Fields) (approval : ApprovalRequest) :
    ReimbursementRun :=
  let asked := run.audited "approval.intent.requested"
    [("external_reimbursement_id", run.draft.externalReimbursementId),
      ("risk_level", .str (env.text (get arguments "risk_level")))]
  { asked with
    approval := some approval
    status := .waitingConfirmation }.audited "approval.requested"
      [("approval_id", .num (JsonNumber.ofNat approval.id)),
        ("approval_payload_hash", hashText approval.payloadHash),
        ("draft_snapshot_hash", hashText approval.draftSnapshotHash)]

def requestedApproval (run : ReimbursementRun) (arguments : Fields) (approvalId : ApprovalId) :
    Option ApprovalRequest :=
  let arguments := injectAuthoritativeContext run arguments
  match submitIntentError env run arguments with
  | .passed => some (createApproval env run arguments approvalId)
  | _ => none

theorem approval_of_requested {env : Environment} {run : ReimbursementRun} {arguments : Fields}
    {approvalId : ApprovalId} {approval : ApprovalRequest}
    (created : requestedApproval env run arguments approvalId = some approval) :
    approval = createApproval env run (injectAuthoritativeContext run arguments) approvalId := by
  unfold requestedApproval at created
  dsimp only at created
  split at created
  · cases created
    rfl
  · cases created

def dispatchSubmitIntent (run : ReimbursementRun) (arguments : Fields) (approvalId : ApprovalId) :
    ReimbursementRun × Dispatched :=
  let arguments := injectAuthoritativeContext run arguments
  match submitIntentError env run arguments with
  | .refused errorCode message => (run, .failed errorCode message)
  | .raised => (run, .raised)
  | .passed =>
    (requestApproval env run arguments (createApproval env run arguments approvalId),
      .suspended "awaiting_approval" [("approval_id", .num (JsonNumber.ofNat approvalId))])

/-! ### The checks before a call of the connector -/

def mergeCurrentDraft (run : ReimbursementRun) (modelDraft : Fields) : Fields :=
  let current := run.draft.asMcpPayload.filter (fun field =>
    decide (field.1 ∉ externalStateFields))
  modelDraft.foldl (fun merged field =>
    if field.1 ∈ externalStateFields then merged
    else if field.2 ≠ .null ∧ field.2 ≠ .str "" ∧ field.2 ≠ .arr [] then Json.setField merged field
    else if has merged field.1 then merged
    else Json.setField merged field) current

def hasSuccessfulValidation (run : ReimbursementRun) (draft : Fields) : Bool :=
  run.auditEvents.any (fun event =>
    decide (event.kind = "reimbursement.draft.validated" ∧
      get event.payload "draft_hash" = .str (env.draftHash draft)))

def attachmentRefSet (value : Json) : Option (List AttachmentRef) :=
  match value with
  | .null => some []
  | .str text => if text = "" then some [] else none
  | .arr items => items.mapM env.validateAttachment
  | _ => none

def AttachmentRef.isImported (attachment : AttachmentRef) : Bool :=
  "anna://attachment/".toList.isPrefixOf attachment.uri.toList

def hasUnimportedAttachments (run : ReimbursementRun) (draft : Fields) : Bool :=
  match draft.lookup "attachments" with
  | none => false
  | some value =>
    match attachmentRefSet env value with
    | none => true
    | some incoming =>
      !incoming.all (fun attachment =>
        decide (attachment ∈ run.draft.attachments.filter AttachmentRef.isImported))

def requiredMissingFields (draft : ReimbursementDraft) (requiredFields : List String) :
    List String :=
  requiredFields.filter (fun field => env.truthy (get draft.asMcpPayload field) = false)

/-- The checks of `_model_tool_preflight_error` on the merged draft. -/
def mergedDraftError (run : ReimbursementRun) (requiredFields : List String) (toolName : String)
    (merged : Fields) : ReimbursementRun × Checked :=
  if hasUnimportedAttachments env run merged = true then
    match env.validateDraft (merged.filter (fun field => decide (field.1 ≠ "attachments"))) with
    | none => (run, .raised)
    | some draft =>
      ({ run with
        draft := draft
        missingFields := ["attachments"] },
        .refused "required_fields_missing" "attachments must be imported through Anna")
  else if toolName = "reimbursement.validate_draft" then (run, .passed)
  else
    match env.validateDraft merged with
    | none => (run, .raised)
    | some draft =>
      let missingFields := requiredMissingFields env draft requiredFields
      if missingFields ≠ [] then
        ({ run with
          draft := draft
          missingFields := missingFields },
          .refused "required_fields_missing" "required reimbursement draft fields are missing")
      else if hasSuccessfulValidation env run merged = false then
        (run, .refused "draft_validation_required"
          "create_draft requires a prior successful validate_draft call")
      else (run, .passed)

/-- `_model_tool_preflight_error`, with the run and the arguments as it leaves them. -/
def modelToolPreflightError (run : ReimbursementRun) (requiredFields : List String)
    (toolName : String) (arguments : Fields) : ReimbursementRun × Fields × Checked :=
  if toolName ≠ "reimbursement.validate_draft" ∧ toolName ≠ "reimbursement.create_draft" then
    (run, arguments, .passed)
  else
    match draftArgument arguments with
    | .obj draft =>
      if externalStateFields.any (fun field => has draft field) = true then
        (run, arguments, .refused "external_state_not_allowed"
          "model draft arguments must not include external reimbursement state")
      else
        let merged := mergeCurrentDraft run draft
        let arguments :=
          if has arguments "draft" then Json.setField arguments ("draft", .obj merged)
          else merged
        let checked := mergedDraftError env run requiredFields toolName merged
        (checked.1, arguments, checked.2)
    | _ =>
      (run, arguments, .refused "tool_arguments_invalid" (toolName ++ " requires a draft object"))

def missingFieldsSuspend (run : ReimbursementRun) : ReimbursementRun × Dispatched :=
  let missing : Json := .arr (run.missingFields.map Json.str)
  ({ run with
    status := .collecting
    errorCode := none
    errorMessage := none }.audited "reimbursement.missing_fields.requested"
      [("missing_fields", missing)],
    .suspended "missing_fields" [("missing_fields", missing)])

/-- The current draft of the run follows the arguments of `create_draft`;
`none` is an exception. -/
def draftForTool (run : ReimbursementRun) (toolName : String) (arguments : Fields) :
    Option ReimbursementRun :=
  if toolName = "reimbursement.create_draft" then
    match draftArgument arguments with
    | .obj draft => (env.validateDraft draft).map (fun draft => { run with draft := draft })
    | _ => some run
  else some run

/-- `_assert_current_external_id`. -/
def currentExternalIdError (run : ReimbursementRun) (toolName : String) (arguments : Fields) :
    Option McpError :=
  if toolName ≠ "reimbursement.get_status" then none
  else if env.truthy run.draft.externalReimbursementId = false then
    some ⟨"external_reimbursement_id_required",
      "external draft id is required before status readback", false, none⟩
  else if run.draft.externalReimbursementId ≠
      .str (env.text ((arguments.lookup "external_reimbursement_id").getD (.str ""))) then
    some ⟨"external_reimbursement_id_mismatch",
      "external id must match the current reimbursement draft", false, none⟩
  else none

def toolMissingFields (result : Fields) : List String :=
  match get result "missing_fields" with
  | .arr items => (items.map env.text).filter (fun field => decide (field ≠ ""))
  | _ => []

def validationSucceeded (result : Fields) : Bool :=
  decide (get result "valid" = .bool true) &&
    decide (get result "blocked" ≠ .bool true) &&
      !env.truthy (get result "missing_fields")

def policyCheckFields : List String :=
  ["policy_summary", "risk_level", "missing_fields", "valid", "blocked", "requires_confirmation"]

def recordPolicyCheck (run : ReimbursementRun) (toolName : String) (result : Fields) :
    ReimbursementRun :=
  run.audited "reimbursement.policy.checked"
    (("tool_name", .str toolName) :: policyCheckFields.filterMap (fun field =>
      (result.lookup field).map (fun value => (field, value))))

def recordValidatedDraft (run : ReimbursementRun) (arguments result : Fields) : ReimbursementRun :=
  match draftArgument arguments with
  | .obj draft =>
    if validationSucceeded env result = true then
      run.audited "reimbursement.draft.validated"
        [("draft_hash", .str (env.draftHash draft)),
          ("policy_summary", get result "policy_summary"),
          ("risk_level", get result "risk_level")]
    else run
  | _ => run

/-- What the connector's verdict on a draft does: the run as it goes on, or the end
of the call. -/
def validatedDraft (run : ReimbursementRun) (arguments result : Fields) :
    ReimbursementRun × Option Dispatched :=
  let checked := recordPolicyCheck run "reimbursement.validate_draft" result
  let missingFields := toolMissingFields env result
  if missingFields = [] then (recordValidatedDraft env checked arguments result, none)
  else
    match (result.lookup "normalized_draft").getD (draftArgument arguments) with
    | .obj draft =>
      match env.validateDraft draft with
      | none => (checked, some .raised)
      | some draft =>
        let parked := missingFieldsSuspend
          { checked with
            draft := draft
            missingFields := missingFields }
        (parked.1, some parked.2)
    | _ =>
      let parked := missingFieldsSuspend { checked with missingFields := missingFields }
      (parked.1, some parked.2)

/-- The end of a tool call that has passed everything. -/
def settle (run : ReimbursementRun) (result : Fields) : ReimbursementRun × Dispatched :=
  ({ run with
    status :=
      if env.truthy run.draft.externalReimbursementId = true then .draftCreated
      else .collecting },
    .observed result)

def resultReceived (run : ReimbursementRun) (toolName : String) (arguments result : Fields) :
    ReimbursementRun × Dispatched :=
  let called := run.recordToolCalled env toolName arguments "success" none
  if toolName = "reimbursement.get_policy" then
    settle env (recordPolicyCheck called toolName result) result
  else if toolName = "reimbursement.validate_draft" then
    match validatedDraft env called arguments result with
    | (ended, some dispatched) => (ended, dispatched)
    | (valid, none) => settle env valid result
  else if toolName = "reimbursement.create_draft" then
    settle env
      { called with
        draft :=
          { called.draft with
            externalReimbursementId := get result "external_reimbursement_id"
            externalStatus := get result "external_status" } }
      result
  else settle env called result

def callTool (run : ReimbursementRun) (toolName : String) (arguments : Fields) (answer : Answer) :
    ReimbursementRun × Dispatched :=
  if toolName ∉ allowedTools then
    (run, .failed "tool_not_allowed"
      ("tool is not available in reimbursement runtime: " ++ toolName))
  else
    match draftForTool env run toolName arguments with
    | none => (run, .raised)
    | some run =>
      let answer : Answer :=
        match currentExternalIdError env run toolName arguments with
        | some error => .error error
        | none => answer
      match answer with
      | .error error =>
        (run.recordToolCalled env toolName arguments "failed" (some error),
          .failed error.errorCode error.message)
      | .ok result => resultReceived env run toolName arguments result

def dispatchTool (run : ReimbursementRun) (requiredFields : List String) (toolName : String)
    (arguments : Fields) (approvalId : ApprovalId) (answer : Answer) :
    ReimbursementRun × Dispatched :=
  if toolName = "reimbursement.submit_intent" then
    dispatchSubmitIntent env run arguments approvalId
  else
    match modelToolPreflightError env run requiredFields toolName arguments with
    | (run, _, .refused errorCode message) =>
      if errorCode = "required_fields_missing" then missingFieldsSuspend run
      else (run, .failed errorCode message)
    | (run, _, .raised) => (run, .raised)
    | (run, arguments, .passed) => callTool env run toolName arguments answer

def onAssistantFinal (run : ReimbursementRun) (message : Option String) : ReimbursementRun :=
  { run with
    status := .collecting
    agentMessage := message }.audited "reimbursement.agent.message"
      [("message_hash", .str (env.hashPayload [("message", .str (message.getD ""))]))]

end AnnaAgent.Reimbursement
