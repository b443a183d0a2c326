/-
`createToolGateway` (`harness-v2/src/tool-gateway.ts`).
-/

import AnnaAgent.Tools.Approval
import AnnaAgent.Tools.Effects

namespace AnnaAgent.Tools

open Foundation EventStore

namespace BoundToolGateway

variable (digest : String → String) (gateway : BoundToolGateway)

def lookup (name : String) : Option ToolDefinition :=
  gateway.catalog.find? (fun candidate => candidate.name = name)

/-- The request that policy, approval and sandbox see. -/
def normalizedRequest (request : ToolRequest) (normalizedInput : Json) : ToolRequest :=
  { request with
    workspaceId := gateway.scope.workspaceId
    channelId := gateway.scope.channelId
    workerProfileId := gateway.workerProfileId
    input := normalizedInput }

def effectKeyOf (request : ToolRequest) : Option String :=
  match request.effectKey with
  | some effectKey => if effectKey = "" then none else some effectKey
  | none => none

def approvalIdFor (effectKey : String) : String := "approval:" ++ effectKey

def executeApproved (definition : ToolDefinition) (request : ToolRequest) : Async ToolResult :=
  match definition.replayPolicy with
  | some replayPolicy => executeEffect digest .direct request replayPolicy
  | none => ask (.sandboxExecute request none)

def requestApproval (approval : Approval) (request : ToolRequest) (effectKey : String)
    (durableEvents : List Event) : Async Unit :=
  if approval.request.isNone then
    appendApprovalRequest request effectKey (approvalIdFor effectKey) durableEvents
  else return ()

def executeWithApproval (lifecycleRequest : ToolRequest) (definition : ToolDefinition)
    (request : ToolRequest) (effectKey : String) : Async ToolResult := do
  let approvalId := approvalIdFor effectKey
  let durableEvents ← ask (.readStream request.runId (some request))
  let approval := approvalFor durableEvents request approvalId
  match approval.decision with
  | some .approved => do
      let result ← executeApproved digest definition request
      terminalResult lifecycleRequest result none
  | some .denied =>
    terminalResult lifecycleRequest
      { status := .failed
        output := some (.obj
          [("reason", .str "approval_denied"), ("approvalId", .str approvalId)]) } none
  | none => do
      let _ ← requestApproval approval request effectKey durableEvents
      terminalResult lifecycleRequest
        { status := .failed
          output := some (.obj
            [("reason", .str "approval_required"), ("approvalId", .str approvalId)]) } none

/-- The branches that follow a policy decision. -/
def executeDecided (lifecycleRequest : ToolRequest) (definition : ToolDefinition)
    (request : ToolRequest) (decision : String) : Async ToolResult :=
  if decision = "deny" then
    terminalResult lifecycleRequest { status := .failed, output := none } (some "policy_denied")
  else if decision = "allow" then
    match definition.replayPolicy, request.effectKey with
    | some .safe, none => do
        let result ← ask (.sandboxExecute request (some .safe))
        terminalResult lifecycleRequest result none
    | some replayPolicy, some effectKey =>
      if effectKey = "" then
        terminalResult lifecycleRequest (failedFor "invalid_tool_combination") none
      else do
        let result ← executeEffect digest .cancellable request replayPolicy
        terminalResult lifecycleRequest result none
    | _, _ => terminalResult lifecycleRequest (failedFor "invalid_tool_combination") none
  else
    match effectKeyOf request with
    | some effectKey => executeWithApproval digest lifecycleRequest definition request effectKey
    | none => terminalResult lifecycleRequest (failedFor "invalid_tool_combination") none

def executeNormalized (lifecycleRequest : ToolRequest) (definition : ToolDefinition)
    (request : ToolRequest) : Async ToolResult := do
  match ← (ask (.decide request)).attempt with
  | .error _ => terminalResult lifecycleRequest (failedFor "policy_unavailable") none
  | .ok decision =>
    if decision ∉ ["allow", "deny", "require_approval"] then
      terminalResult lifecycleRequest (failedFor "invalid_policy_decision") none
    else do
      let _ ← appendToolLifecycleEvent lifecycleRequest "tool.policy.decided"
        [("decision", .str decision)]
      executeDecided digest lifecycleRequest definition request decision

def execute (request : ToolRequest) : Async ToolResult :=
  match lifecycleRequestFor gateway request with
  | none => return failedFor "invalid_tool_call_id"
  | some lifecycleRequest => do
      let _ ← appendToolLifecycleEvent lifecycleRequest "tool.requested" []
      if request.toChannelScope ≠ gateway.scope ∨
          request.workerProfileId ≠ gateway.workerProfileId then
        terminalResult lifecycleRequest (failedFor "scope_denied") none
      else
        match gateway.lookup request.name with
        | none =>
          terminalResult lifecycleRequest { status := .failed, output := none }
            (some "unregistered_tool")
        | some definition =>
          match definition.inputSchema request.input with
          | .error _ => terminalResult lifecycleRequest (failedFor "invalid_tool_input") none
          | .ok normalizedInput =>
            executeNormalized digest lifecycleRequest definition
              (gateway.normalizedRequest request normalizedInput)

def answerApproval (answer : ToolApprovalAnswer) : Async Unit :=
  if answer.toChannelScope ≠ gateway.scope then
    .throw (.error "Tool approval answer is outside the bound scope")
  else appendApprovalAnswer gateway answer

end BoundToolGateway

end AnnaAgent.Tools
