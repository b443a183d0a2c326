/-
Approvals of tool calls (`harness-v2/src/tool-approval.ts`).
-/

import AnnaAgent.Tools.Events

namespace AnnaAgent.Tools

open Foundation EventStore

def matchesScope (event : Event) (scope : ChannelScope) (runId : RunId) : Bool :=
  decide (event.workspaceId = scope.workspaceId) &&
    (decide (event.channelId = scope.channelId) && decide (event.streamId = runId))

def isApprovalRequest (event : Event) (request : ToolRequest) (approvalId : String) : Bool :=
  decide (event.type = "tool.approval.requested") &&
    (matchesScope event request.toChannelScope request.runId &&
      (event.payload.isRecord &&
        (sameText (event.payload.get? "workspaceId") (some request.workspaceId) &&
          (sameText (event.payload.get? "channelId") (some request.channelId) &&
            (sameText (event.payload.get? "runId") (some request.runId) &&
              (sameText (event.payload.get? "workerProfileId") (some request.workerProfileId) &&
                (sameText (event.payload.get? "tool") (some request.name) &&
                  (sameText (event.payload.get? "effectKey") request.effectKey &&
                    (sameText (event.payload.get? "approvalId") (some approvalId) &&
                      matchesRunAttribution event.payload request.toRunAttribution)))))))))

def isApprovalRequestForAnswer (event : Event) (answer : ToolApprovalAnswer) : Bool :=
  decide (event.type = "tool.approval.requested") &&
    (matchesScope event answer.toChannelScope answer.runId &&
      (event.payload.isRecord &&
        (sameText (event.payload.get? "workspaceId") (some answer.workspaceId) &&
          (sameText (event.payload.get? "channelId") (some answer.channelId) &&
            (sameText (event.payload.get? "runId") (some answer.runId) &&
              (sameText (event.payload.get? "effectKey") (some answer.effectKey) &&
                (sameText (event.payload.get? "approvalId") (some answer.approvalId) &&
                  matchesProvidedRunAttribution event.payload answer.toRunAttribution)))))))

inductive ApprovalDecision where
  | approved
  | denied
  deriving DecidableEq

def getApprovalDecision (event : Event) (request : ToolRequest) (approvalId : String) :
    Option ApprovalDecision :=
  if decide (event.type = "tool.approval.answered") &&
      (matchesScope event request.toChannelScope request.runId &&
        (event.payload.isRecord &&
          (sameText (event.payload.get? "workspaceId") (some request.workspaceId) &&
            (sameText (event.payload.get? "channelId") (some request.channelId) &&
              (sameText (event.payload.get? "runId") (some request.runId) &&
                (sameText (event.payload.get? "effectKey") request.effectKey &&
                  (sameText (event.payload.get? "approvalId") (some approvalId) &&
                    matchesProvidedRunAttribution event.payload
                      request.toRunAttribution))))))) then
    match event.payload.get? "decision" with
    | some (.str "approved") => some .approved
    | some (.str "denied") => some .denied
    | _ => none
  else none

structure Approval where
  request : Option Event
  decision : Option ApprovalDecision

/-- The first request for the call and the first decision after it. -/
def approvalFor (durableEvents : List Event) (request : ToolRequest) (approvalId : String) :
    Approval :=
  match durableEvents.find? (fun event => isApprovalRequest event request approvalId) with
  | none => { request := none, decision := none }
  | some approvalRequest =>
    { request := some approvalRequest
      decision :=
        (durableEvents.filter (fun event => decide (approvalRequest.seq < event.seq))).findSome?
          (fun event => getApprovalDecision event request approvalId) }

def approvalRequestPayload (request : ToolRequest) (effectKey approvalId : String) : Json :=
  .obj
    ([("workspaceId", .str request.workspaceId), ("channelId", .str request.channelId),
        ("runId", .str request.runId), ("workerProfileId", .str request.workerProfileId),
        ("tool", .str request.name), ("effectKey", .str effectKey),
        ("approvalId", .str approvalId)] ++
      runAttributionPayload request.toRunAttribution)

def appendApprovalRequest (request : ToolRequest) (effectKey approvalId : String)
    (durableEvents : List Event) : Async Unit := do
  let id ← ask .createEventId
  let timestamp ← ask .now
  ask (.append
    { id
      workspaceId := request.workspaceId
      channelId := request.channelId
      streamId := request.runId
      seq := nextSequence durableEvents
      type := "tool.approval.requested"
      timestamp
      schemaVersion := 1
      payload := approvalRequestPayload request effectKey approvalId }
    (some { request, replayPolicy := none }))

def attributionField (given : Option String) (payload : Json) (key : String) : Option String :=
  match given with
  | some text => some text
  | none =>
    match payload.get? key with
    | some (.str text) => some text
    | _ => none

def approvalAnswerPayload (gateway : BoundToolGateway) (answer : ToolApprovalAnswer)
    (attribution : RunAttribution) : Json :=
  .obj
    ([("workspaceId", .str gateway.scope.workspaceId),
        ("channelId", .str gateway.scope.channelId), ("runId", .str answer.runId),
        ("effectKey", .str answer.effectKey), ("approvalId", .str answer.approvalId),
        ("actorId", .str answer.actorId), ("decision", .str answer.decision)] ++
      runAttributionPayload attribution)

def appendApprovalAnswer (gateway : BoundToolGateway) (answer : ToolApprovalAnswer) :
    Async Unit := do
  let durableEvents ← ask (.readStream answer.runId none)
  match durableEvents.find? (fun event => isApprovalRequestForAnswer event answer) with
  | none => .throw (.error "Tool approval request was not found in the Run stream")
  | some approvalRequest => do
      let attribution : RunAttribution :=
        { parentRunId :=
            attributionField answer.parentRunId approvalRequest.payload "parentRunId"
          parentEventId :=
            attributionField answer.parentEventId approvalRequest.payload "parentEventId"
          laneId := attributionField answer.laneId approvalRequest.payload "laneId" }
      let id ← ask .createEventId
      let timestamp ← ask .now
      ask (.append
        { id
          workspaceId := gateway.scope.workspaceId
          channelId := gateway.scope.channelId
          streamId := answer.runId
          seq := nextSequence durableEvents
          type := "tool.approval.answered"
          timestamp
          schemaVersion := 1
          payload := approvalAnswerPayload gateway answer attribution }
        none)

end AnnaAgent.Tools
