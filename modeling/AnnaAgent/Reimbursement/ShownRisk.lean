/-
The risk that an approval shows.

`submit_intent` takes the policy summary and the risk level from the last draft
that has been validated, whatever draft that was.  They are those of the draft
under approval when that was the last one and the connector gave both.
-/

import AnnaAgent.Foundation.Run
import AnnaAgent.Reimbursement.Capability

namespace AnnaAgent.Reimbursement

open Foundation

variable {env : Environment} {run : ReimbursementRun}

def isValidated (event : AuditEvent) : Bool :=
  decide (event.kind = "reimbursement.draft.validated")

/-- The events of the drafts that have been validated, the oldest first. -/
def ReimbursementRun.validatedEvents (run : ReimbursementRun) : List AuditEvent :=
  run.auditEvents.filter isValidated

/-- A draft and what the connector returned when it found it valid. -/
structure Validation where
  draft : Fields
  policySummary : Json
  riskLevel : Json

def Validation.event (env : Environment) (validation : Validation) : AuditEvent :=
  ⟨"reimbursement.draft.validated",
    [("draft_hash", .str (env.draftHash validation.draft)),
      ("policy_summary", validation.policySummary), ("risk_level", validation.riskLevel)]⟩

def validationIn (env : Environment) (arguments result : Fields) : Option Validation :=
  match draftArgument arguments with
  | .obj draft =>
    if toolMissingFields env result = [] ∧ validationSucceeded env result = true then
      some (Validation.mk draft (Fields.get result "policy_summary")
        (Fields.get result "risk_level"))
    else none
  | _ => none

/-- The successful validation that a tool call brings. -/
def validationOf (env : Environment) (run : ReimbursementRun) (requiredFields : List String)
    (toolName : String) (arguments : Fields) (answer : Answer) : Option Validation :=
  if toolName ≠ "reimbursement.validate_draft" then none
  else
    match modelToolPreflightError env run requiredFields toolName arguments, answer with
    | (_, arguments, .passed), .ok result => validationIn env arguments result
    | _, _ => none

theorem validated_audited (run : ReimbursementRun) {kind : String} (payload : Fields)
    (other : kind ≠ "reimbursement.draft.validated") :
    (run.audited kind payload).validatedEvents = run.validatedEvents := by
  change (run.auditEvents ++ [AuditEvent.mk kind payload]).filter isValidated = _
  rw [List.filter_append, List.filter_cons_of_neg (by simp [isValidated, other]), List.filter_nil,
    List.append_nil]
  rfl

theorem validated_recordToolCalled (toolName : String) (input : Fields) (status : String)
    (error : Option McpError) :
    (run.recordToolCalled env toolName input status error).validatedEvents = run.validatedEvents :=
  validated_audited run _ (by simp)

theorem validated_recordPolicyCheck (toolName : String) (result : Fields) :
    (recordPolicyCheck run toolName result).validatedEvents = run.validatedEvents :=
  validated_audited run _ (by simp)

theorem validated_missingFieldsSuspend :
    (missingFieldsSuspend run).1.validatedEvents = run.validatedEvents := by
  unfold missingFieldsSuspend
  rw [validated_audited _ _ (by simp)]
  rfl

theorem validated_requestApproval (arguments : Fields) (approval : ApprovalRequest) :
    (requestApproval env run arguments approval).validatedEvents = run.validatedEvents := by
  unfold requestApproval
  rw [validated_audited _ _ (by simp)]
  exact validated_audited run _ (by simp)

theorem validated_dispatchSubmitIntent (arguments : Fields) (approvalId : ApprovalId) :
    (dispatchSubmitIntent env run arguments approvalId).1.validatedEvents =
      run.validatedEvents := by
  unfold dispatchSubmitIntent
  dsimp only
  split
  · rfl
  · rfl
  · exact validated_requestApproval _ _

theorem events_mergedDraftError (requiredFields : List String) (toolName : String)
    (merged : Fields) :
    (mergedDraftError env run requiredFields toolName merged).1.auditEvents = run.auditEvents := by
  unfold mergedDraftError
  split
  · split
    · rfl
    · rfl
  · split
    · rfl
    · split
      · rfl
      · dsimp only
        split
        · rfl
        · split
          · rfl
          · rfl

theorem events_preflight (requiredFields : List String) (toolName : String) (arguments : Fields) :
    (modelToolPreflightError env run requiredFields toolName arguments).1.auditEvents =
      run.auditEvents := by
  unfold modelToolPreflightError
  split
  · rfl
  · split
    · split
      · rfl
      · exact events_mergedDraftError requiredFields toolName _
    · rfl

variable {toolName : String}

theorem events_draftForTool {arguments : Fields} {after : ReimbursementRun}
    (drafted : draftForTool env run toolName arguments = some after) :
    after.auditEvents = run.auditEvents := by
  unfold draftForTool at drafted
  split at drafted
  · split at drafted
    · rcases Option.map_eq_some_iff.mp drafted with ⟨draft, _, same⟩
      rw [← same]
    · cases drafted
      rfl
  · cases drafted
    rfl

theorem validated_of_events {other : ReimbursementRun}
    (same : run.auditEvents = other.auditEvents) : run.validatedEvents = other.validatedEvents :=
  congrArg (List.filter isValidated) same

theorem validated_recordValidatedDraft (arguments result : Fields)
    (complete : toolMissingFields env result = []) :
    (recordValidatedDraft env run arguments result).validatedEvents =
      run.validatedEvents ++
        (validationIn env arguments result).toList.map (Validation.event env) := by
  unfold recordValidatedDraft validationIn
  cases draftArgument arguments with
  | obj draft =>
    dsimp only
    by_cases succeeded : validationSucceeded env result = true
    · rw [if_pos succeeded, if_pos ⟨complete, succeeded⟩]
      change (run.auditEvents ++ [_]).filter isValidated = _
      rw [List.filter_append]
      rfl
    · rw [if_neg succeeded, if_neg (fun both => succeeded both.2)]
      exact (List.append_nil _).symm
  | _ => exact (List.append_nil _).symm

theorem validated_validatedDraft (arguments result : Fields) :
    (validatedDraft env run arguments result).1.validatedEvents =
      run.validatedEvents ++
        (validationIn env arguments result).toList.map (Validation.event env) := by
  unfold validatedDraft
  dsimp only
  by_cases complete : toolMissingFields env result = []
  · rw [if_pos complete, validated_recordValidatedDraft _ _ complete, validated_recordPolicyCheck]
  · have nothing : validationIn env arguments result = none := by
      unfold validationIn
      split
      · exact if_neg (fun both => complete both.1)
      · rfl
    rw [if_neg complete, nothing]
    change _ = run.validatedEvents ++ []
    rw [List.append_nil]
    split
    · split
      · exact validated_recordPolicyCheck _ _
      · rw [validated_missingFieldsSuspend]
        exact validated_recordPolicyCheck _ _
    · rw [validated_missingFieldsSuspend]
      exact validated_recordPolicyCheck _ _

theorem validated_settle (result : Fields) :
    (settle env run result).1.validatedEvents = run.validatedEvents := rfl

theorem validated_resultReceived_validate (arguments result : Fields) :
    (resultReceived env run "reimbursement.validate_draft" arguments result).1.validatedEvents =
      run.validatedEvents ++
        (validationIn env arguments result).toList.map (Validation.event env) := by
  have added := @validated_validatedDraft env
    (run.recordToolCalled env "reimbursement.validate_draft" arguments "success" none)
    arguments result
  rw [validated_recordToolCalled] at added
  unfold resultReceived
  dsimp only
  rw [if_neg (by simp), if_pos rfl]
  split
  · rename_i ended dispatched stops
    rw [stops] at added
    exact added
  · rename_i valid goesOn
    rw [goesOn] at added
    exact added

theorem validated_resultReceived_other (other : toolName ≠ "reimbursement.validate_draft")
    (arguments result : Fields) :
    (resultReceived env run toolName arguments result).1.validatedEvents = run.validatedEvents := by
  have called := @validated_recordToolCalled env run toolName arguments "success" none
  unfold resultReceived
  dsimp only
  split
  · rw [validated_settle, validated_recordPolicyCheck, called]
  · split
    · exact called
    · exact called

theorem validated_callTool_other (other : toolName ≠ "reimbursement.validate_draft")
    (arguments : Fields) (answer : Answer) :
    (callTool env run toolName arguments answer).1.validatedEvents = run.validatedEvents := by
  unfold callTool
  split
  · rfl
  · split
    · rfl
    · rename_i drafted draftedIs
      have sameEvents := validated_of_events (events_draftForTool draftedIs)
      split
      · exact (validated_recordToolCalled _ _ _ _).trans sameEvents
      · cases answer with
        | error error => exact (validated_recordToolCalled _ _ _ _).trans sameEvents
        | ok result => exact (validated_resultReceived_other other _ _).trans sameEvents

theorem validated_callTool_validate (arguments : Fields) (answer : Answer) :
    (callTool env run "reimbursement.validate_draft" arguments answer).1.validatedEvents =
      run.validatedEvents ++
        (match answer with
        | .ok result => validationIn env arguments result
        | .error _ => none).toList.map (Validation.event env) := by
  have sameRun : draftForTool env run "reimbursement.validate_draft" arguments = some run :=
    if_neg (by simp)
  have noError : currentExternalIdError env run "reimbursement.validate_draft" arguments = none :=
    if_pos (by simp)
  unfold callTool
  rw [if_neg (by simp [allowedTools]), sameRun]
  dsimp only
  rw [noError]
  cases answer with
  | error error =>
    change (run.recordToolCalled env _ _ _ _).validatedEvents = run.validatedEvents ++ []
    rw [validated_recordToolCalled, List.append_nil]
  | ok result => exact validated_resultReceived_validate arguments result

theorem validated_dispatchTool (requiredFields : List String) (toolName : String)
    (arguments : Fields) (approvalId : ApprovalId) (answer : Answer) :
    (dispatchTool env run requiredFields toolName arguments approvalId answer).1.validatedEvents =
      run.validatedEvents ++
        (validationOf env run requiredFields toolName arguments answer).toList.map
          (Validation.event env) := by
  have preflight := validated_of_events
    (@events_preflight env run requiredFields toolName arguments)
  unfold dispatchTool validationOf
  by_cases submits : toolName = "reimbursement.submit_intent"
  · rw [if_pos submits, if_pos (by rw [submits]; simp), validated_dispatchSubmitIntent]
    exact (List.append_nil _).symm
  · rw [if_neg submits]
    by_cases validates : toolName = "reimbursement.validate_draft"
    · rw [if_neg (not_not_intro validates)]
      generalize modelToolPreflightError env run requiredFields toolName arguments = checked
        at preflight
      rcases checked with ⟨after, merged, verdict⟩
      cases verdict with
      | passed =>
        subst validates
        dsimp only at preflight ⊢
        rw [validated_callTool_validate, preflight]
        cases answer with
        | error error => rfl
        | ok result => rfl
      | refused errorCode message =>
        dsimp only at preflight ⊢
        rw [Option.toList_none, List.map_nil, List.append_nil]
        split
        · rw [validated_missingFieldsSuspend, preflight]
        · exact preflight
      | raised =>
        dsimp only at preflight ⊢
        rw [preflight]
        exact (List.append_nil _).symm
    · rw [if_pos validates, Option.toList_none, List.map_nil, List.append_nil]
      split
      · rename_i checked
        rw [checked] at preflight
        split
        · rw [validated_missingFieldsSuspend]
          exact preflight
        · exact preflight
      · rename_i checked
        rw [checked] at preflight
        exact preflight
      · rename_i checked
        rw [checked] at preflight
        rw [validated_callTool_other validates]
        exact preflight

/-! ### Runs of tool calls -/

structure ToolCall where
  requiredFields : List String
  toolName : String
  arguments : Fields
  approvalId : ApprovalId
  answer : Answer

structure Requested where
  approval : ApprovalRequest
  validations : List Validation

structure RunHistory where
  run : ReimbursementRun
  validations : List Validation
  requests : List Requested

def ToolCall.approval (env : Environment) (run : ReimbursementRun) (call : ToolCall) :
    Option ApprovalRequest :=
  if call.toolName = "reimbursement.submit_intent" then
    requestedApproval env run call.arguments call.approvalId
  else none

def ToolCall.validation (env : Environment) (run : ReimbursementRun) (call : ToolCall) :
    Option Validation :=
  validationOf env run call.requiredFields call.toolName call.arguments call.answer

def RunHistory.called (env : Environment) (history : RunHistory) (call : ToolCall) : RunHistory :=
  { run := (dispatchTool env history.run call.requiredFields call.toolName call.arguments
      call.approvalId call.answer).1
    validations := history.validations ++ (call.validation env history.run).toList
    requests := history.requests ++
      (call.approval env history.run).toList.map (fun approval =>
        Requested.mk approval history.validations) }

/-- Between two tool calls the run may be changed by answers, results of the host
and decisions.  None of them validates a draft. -/
inductive RunStep (env : Environment) : RunHistory → Option ToolCall → RunHistory → Prop
  | called {history : RunHistory} (call : ToolCall) :
      RunStep env history (some call) (history.called env call)
  | changed {history : RunHistory} {run : ReimbursementRun}
      (silent : run.validatedEvents = history.run.validatedEvents) :
      RunStep env history none { history with run := run }

def userFields (draft : Fields) : Fields :=
  draft.filter (fun field => decide (field.1 ∉ externalStateFields))

def Validation.isOf (env : Environment) (validation : Validation) (draft : Fields) : Prop :=
  ∃ validated, env.validateDraft validation.draft = some validated ∧
    userFields validated.asMcpPayload = userFields draft

/-- The approval shows what the connector returned when it last validated the draft
under approval. -/
def Requested.isShown (env : Environment) (requested : Requested) : Prop :=
  ∃ early validation late, requested.validations = early ++ validation :: late ∧
    (∃ snapshot, requested.approval.draftSnapshot = some snapshot ∧
      validation.isOf env snapshot ∧ ∀ other ∈ late, ¬ other.isOf env snapshot) ∧
    Fields.get requested.approval.payload "policy_summary" = validation.policySummary ∧
    requested.approval.riskLevel = env.text validation.riskLevel

/-- Before `submit_intent` the last draft that has been validated is the draft of the
run, and the connector gave it a policy summary and a risk level. -/
def CurrentlyValidated (env : Environment) (move : Move RunHistory (Option ToolCall)) : Prop :=
  ∀ call, move.label = some call → call.toolName = "reimbursement.submit_intent" →
    ∃ early validation, move.before.validations = early ++ [validation] ∧
      validation.isOf env move.before.run.draft.asMcpPayload ∧
      validation.policySummary ≠ .null ∧ validation.riskLevel ≠ .null

theorem find?_reverse_concat {α : Type} (p : α → Bool) (items : List α) (early : List α) (last : α)
    (parts : items.filter p = early ++ [last]) : items.reverse.find? p = some last := by
  have reversed : items.reverse.filter p = last :: early.reverse := by
    rw [List.filter_reverse, parts, List.reverse_append]
    rfl
  rw [← List.head?_filter, reversed]
  rfl

variable {validation : Validation}

theorem context_of_validated {early : List AuditEvent}
    (events : run.validatedEvents = early ++ [validation.event env])
    (hasSummary : validation.policySummary ≠ .null) (hasRisk : validation.riskLevel ≠ .null)
    (arguments : Fields) :
    Fields.get (injectAuthoritativeContext run arguments) "policy_summary" =
        validation.policySummary ∧
      Fields.get (injectAuthoritativeContext run arguments) "risk_level" =
        validation.riskLevel := by
  have found : run.auditEvents.reverse.find? (fun event =>
      decide (event.kind = "reimbursement.draft.validated")) = some (validation.event env) :=
    find?_reverse_concat isValidated run.auditEvents early _ events
  have summary : Fields.get (validation.event env).payload "policy_summary" =
      validation.policySummary := rfl
  have risk : Fields.get (validation.event env).payload "risk_level" = validation.riskLevel := rfl
  unfold injectAuthoritativeContext
  rw [found]
  dsimp only
  rw [summary, risk, if_neg hasSummary, if_neg hasRisk]
  constructor
  · rw [get_setField_other _ (by simp), get_setField]
  · rw [get_setField]

structure Recorded (env : Environment) (history : RunHistory) : Prop where
  events : history.run.validatedEvents = history.validations.map (Validation.event env)
  shown : ∀ requested ∈ history.requests, requested.isShown env

theorem Recorded.request {history : RunHistory} (recorded : Recorded env history) {call : ToolCall}
    {approval : ApprovalRequest} (created : call.approval env history.run = some approval)
    {early : List Validation} (last : history.validations = early ++ [validation])
    (isCurrent : validation.isOf env history.run.draft.asMcpPayload)
    (hasSummary : validation.policySummary ≠ .null) (hasRisk : validation.riskLevel ≠ .null) :
    (Requested.mk approval history.validations).isShown env := by
  have events : history.run.validatedEvents =
      early.map (Validation.event env) ++ [validation.event env] := by
    rw [recorded.events, last, List.map_append]
    rfl
  rcases context_of_validated events hasSummary hasRisk call.arguments with ⟨summary, risk⟩
  unfold ToolCall.approval at created
  split at created
  · have same := approval_of_requested created
    refine ⟨early, validation, [], last, ⟨_, ?_, isCurrent, ?_⟩, ?_, ?_⟩
    · rw [same]
      rfl
    · intro other member
      cases member
    · rw [same]
      exact summary
    · rw [same]
      exact congrArg env.text risk
  · cases created

theorem Recorded.step {before after : RunHistory} {label : Option ToolCall}
    (recorded : Recorded env before) (step : RunStep env before label after)
    (current : CurrentlyValidated env ⟨before, label, after⟩) : Recorded env after := by
  cases step with
  | called call =>
    constructor
    · change (dispatchTool env before.run _ _ _ _ _).1.validatedEvents =
        (before.validations ++ _).map (Validation.event env)
      rw [validated_dispatchTool, recorded.events, List.map_append]
      rfl
    · intro requested member
      rcases List.mem_append.mp member with earlier | new
      · exact recorded.shown requested earlier
      · rcases List.mem_map.mp new with ⟨approval, created, same⟩
        have isCreated := Option.mem_toList.mp created
        have submits : call.toolName = "reimbursement.submit_intent" := by
          by_contra other
          rw [ToolCall.approval, if_neg other] at isCreated
          cases isCreated
        rcases current call rfl submits with
          ⟨early, validation, last, isCurrent, hasSummary, hasRisk⟩
        rw [← same]
        exact recorded.request isCreated last isCurrent hasSummary hasRisk
  | changed silent =>
    constructor
    · exact silent.trans recorded.events
    · exact recorded.shown

def begun (id : RunId) (workspaceId actorUserId : String) (attachments : List AttachmentRef) :
    RunHistory :=
  { run := newRun id workspaceId actorUserId attachments
    validations := []
    requests := [] }

/-- In a run in which `submit_intent` always follows a validation of the draft of the
run, every approval shows what the connector returned for the draft under approval. -/
theorem risk_is_shown {id : RunId} {workspaceId actorUserId : String}
    {attachments : List AttachmentRef} {trace : List (Move RunHistory (Option ToolCall))}
    {last : RunHistory}
    (runs : Run (RunStep env) (begun id workspaceId actorUserId attachments) trace last)
    (current : ∀ move ∈ trace, CurrentlyValidated env move) :
    ∀ requested ∈ last.requests, requested.isShown env := by
  have recorded : Recorded env last := by
    apply runs.keeps (Recorded env)
    · intro move member step recorded
      exact recorded.step step (current move member)
    · constructor
      · rfl
      · intro requested member
        cases member
  exact recorded.shown

def lunchDraft : Fields :=
  [("amount", .num (JsonNumber.ofNat 7)), ("currency", .str "CNY"), ("reason", .str "lunch")]

/-- The model has a draft validated, and the connector finds this risk. -/
def validateCall (draft : Fields) (risk : String) : ToolCall :=
  { requiredFields := []
    toolName := "reimbursement.validate_draft"
    arguments := [("draft", .obj draft)]
    approvalId := 1
    answer := .ok [("valid", .bool true), ("policy_summary", .str "meals"),
      ("risk_level", .str risk)] }

def createCall : ToolCall :=
  { requiredFields := []
    toolName := "reimbursement.create_draft"
    arguments := [("draft", .obj lunchDraft)]
    approvalId := 1
    answer := .ok [("external_reimbursement_id", .str "e1"), ("external_status", .str "draft")] }

def submitCall : ToolCall :=
  { requiredFields := []
    toolName := "reimbursement.submit_intent"
    arguments := [("external_reimbursement_id", .str "e1"), ("amount", .num (JsonNumber.ofNat 7)),
      ("currency", .str "CNY"), ("reason", .str "lunch")]
    approvalId := 1
    answer := .ok [] }

def afterCalls (calls : List ToolCall) : RunHistory :=
  calls.foldl (fun history call => history.called plainEnvironment call) (begun 1 "w" "u" [])

theorem runs_calls (calls : List ToolCall) (history : RunHistory) :
    ∃ trace, Run (RunStep plainEnvironment) history trace
      (calls.foldl (fun history call => history.called plainEnvironment call) history) := by
  induction calls generalizing history with
  | nil => exact ⟨[], .nil history⟩
  | cons call rest ih =>
    rcases ih (history.called plainEnvironment call) with ⟨trace, later⟩
    exact ⟨_, .cons (.called call) later⟩

theorem risk_is_shown_lunch :
    (afterCalls [validateCall lunchDraft "high", createCall, submitCall]).requests.map
        (fun requested => requested.approval.riskLevel) = ["high"] ∧
      ∀ requested ∈ (afterCalls [validateCall lunchDraft "high", createCall,
        submitCall]).requests, requested.isShown plainEnvironment := by
  refine ⟨by decide, ?_⟩
  refine risk_is_shown (.cons (.called (validateCall lunchDraft "high"))
    (.cons (.called createCall) (.cons (.called submitCall) (.nil _)))) ?_
  intro move member call same submits
  simp only [List.mem_cons, List.not_mem_nil, or_false] at member
  rcases member with here | here | here
  · subst here
    cases same
    simp [validateCall] at submits
  · subst here
    cases same
    simp [createCall] at submits
  · subst here
    exact ⟨[], ⟨("attachments", .arr []) :: lunchDraft, .str "meals", .str "high"⟩, rfl,
      ⟨_, rfl, by decide⟩, by simp, by simp⟩

/-- The model has another draft validated before it asks for the approval: the approval
shows the lower risk of that draft. -/
def lowered : RunHistory :=
  afterCalls [validateCall lunchDraft "high", createCall,
    validateCall [("merchant", .str "cafe")] "low", submitCall]

theorem lowered_shows_other :
    lowered.requests ≠ [] ∧ ∀ requested ∈ lowered.requests,
      ∀ validation ∈ requested.validations,
        plainEnvironment.text validation.riskLevel = requested.approval.riskLevel →
          ∀ snapshot ∈ requested.approval.draftSnapshot.toList,
            userFields (draftOfFields validation.draft).asMcpPayload ≠ userFields snapshot := by
  decide

theorem risk_can_be_lowered :
    ¬ ∀ (env : Environment) (id : RunId) (workspaceId actorUserId : String)
        (attachments : List AttachmentRef) (trace : List (Move RunHistory (Option ToolCall)))
        (last : RunHistory),
      Run (RunStep env) (begun id workspaceId actorUserId attachments) trace last →
        ∀ requested ∈ last.requests, requested.isShown env := by
  intro claimed
  rcases runs_calls [validateCall lunchDraft "high", createCall,
    validateCall [("merchant", .str "cafe")] "low", submitCall] (begun 1 "w" "u" []) with
    ⟨trace, runs⟩
  have shown : ∀ requested ∈ lowered.requests, requested.isShown plainEnvironment :=
    claimed plainEnvironment 1 "w" "u" [] trace lowered runs
  rcases lowered_shows_other with ⟨some, other⟩
  rcases List.exists_mem_of_ne_nil _ some with ⟨requested, member⟩
  rcases shown requested member with
    ⟨early, validation, late, parts, ⟨snapshot, taken, ⟨validated, read, same⟩, _⟩, _, risk⟩
  have known : validation ∈ requested.validations := by
    rw [parts]
    exact List.mem_append_right _ List.mem_cons_self
  cases read
  have isTaken := Option.mem_toList.mpr taken
  exact other requested member validation known risk.symm snapshot isTaken same

end AnnaAgent.Reimbursement
