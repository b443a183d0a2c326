/-
Tool calls and the events about them
(`harness-v2/src/interfaces.ts`, `tool-events.ts`, `tool-gateway-types.ts`).

A gateway suspends at its accesses to the event store, the policy and the
sandbox; its accesses to the clock, to fresh identities, to the abort signal
and to the executions in flight are made between two suspensions and are
requests too.
-/

import AnnaAgent.Foundation.Program
import AnnaAgent.Foundation.Json
import AnnaAgent.EventStore.Contracts

namespace AnnaAgent.Tools

open Foundation EventStore

abbrev WorkerProfileId := String

abbrev Event := CanonicalEvent Json

structure RunAttribution where
  parentRunId : Option RunId
  parentEventId : Option EventId
  laneId : Option String
  deriving DecidableEq

structure ToolRequest extends ChannelScope, RunAttribution where
  runId : RunId
  workerProfileId : WorkerProfileId
  name : String
  input : Json
  effectKey : Option String
  toolCallId : String
  deriving DecidableEq

inductive ToolStatus where
  | succeeded
  | failed
  | unknown
  deriving DecidableEq

def ToolStatus.text : ToolStatus → String
  | .succeeded => "succeeded"
  | .failed => "failed"
  | .unknown => "unknown"

structure ToolResult where
  status : ToolStatus
  output : Option Json
  deriving DecidableEq

/-- `{ status: "failed", output: { reason } }`. -/
def failedFor (reason : String) : ToolResult :=
  { status := .failed
    output := some (.obj [("reason", .str reason)]) }

inductive ReplayPolicy where
  | never
  | safe
  deriving DecidableEq

def ReplayPolicy.text : ReplayPolicy → String
  | .never => "never"
  | .safe => "safe"

structure ToolApprovalAnswer extends ChannelScope, RunAttribution where
  runId : RunId
  effectKey : String
  approvalId : String
  actorId : String
  decision : String

/-- The schema stands for `parseJsonValue` after `inputSchema.parse`. -/
structure ToolDefinition where
  name : String
  inputSchema : Json → Except Thrown Json
  replayPolicy : Option ReplayPolicy

/-- The bound options of a gateway that its methods read. -/
structure BoundToolGateway where
  catalog : List ToolDefinition
  scope : ChannelScope
  workerProfileId : WorkerProfileId

abbrev ExecutionId := Nat

/-- What a call finds when it looks for an execution in flight. -/
inductive Coordination where
  | joined (execution : ExecutionId)
  | entered (execution : ExecutionId)

/-- The call an event is appended for. -/
structure Cause where
  request : ToolRequest
  replayPolicy : Option ReplayPolicy
  deriving DecidableEq

/-- Beside their arguments, `readStream` names the call whose approval is
looked up, `append` the call it is made for, and `sandboxExecute` the replay
policy of the effect. -/
inductive Request where
  | readStream (streamId : StreamId) (approvalOf : Option ToolRequest)
  | append (event : Event) (cause : Option Cause)
  | createEventId
  | now
  | decide (request : ToolRequest)
  | sandboxExecute (request : ToolRequest) (replayPolicy : Option ReplayPolicy)
  | aborted
  | coordinate (executionKey : String) (cause : Cause)
  | awaitExecution (execution : ExecutionId)
  | settle (execution : ExecutionId) (outcome : Except Thrown ToolResult)
  | removeInFlight (executionKey : String) (execution : ExecutionId)

abbrev Request.Response : Request → Type
  | .readStream _ _ => List Event
  | .append _ _ => Unit
  | .createEventId => String
  | .now => Timestamp
  | .decide _ => String
  | .sandboxExecute _ _ => ToolResult
  | .aborted => Bool
  | .coordinate _ _ => Coordination
  | .awaitExecution _ => ToolResult
  | .settle _ _ => Unit
  | .removeInFlight _ _ => Unit

abbrev Async (α : Type) : Type := Program Request Request.Response Thrown α

abbrev ask (request : Request) : Async request.Response := Program.call request

def sameText : Option Json → Option String → Bool
  | none, none => true
  | some (.str value), some text => decide (value = text)
  | _, _ => false

def optionalField (key : String) : Option String → List (String × Json)
  | none => []
  | some text => [(key, .str text)]

def runAttributionPayload (request : RunAttribution) : List (String × Json) :=
  optionalField "parentRunId" request.parentRunId ++
    optionalField "parentEventId" request.parentEventId ++
    optionalField "laneId" request.laneId

def matchesRunAttribution (payload : Json) (request : RunAttribution) : Bool :=
  payload.isRecord &&
    (sameText (payload.get? "parentRunId") request.parentRunId &&
      sameText (payload.get? "parentEventId") request.parentEventId &&
      sameText (payload.get? "laneId") request.laneId)

def matchesProvidedRunAttribution (payload : Json) (request : RunAttribution) : Bool :=
  payload.isRecord &&
    ((request.parentRunId.isNone || sameText (payload.get? "parentRunId") request.parentRunId) &&
      (request.parentEventId.isNone ||
        sameText (payload.get? "parentEventId") request.parentEventId) &&
      (request.laneId.isNone || sameText (payload.get? "laneId") request.laneId))

def reasonOf (output : Option Json) : Option String :=
  match output.bind (fun value => value.get? "reason") with
  | some (.str reason) => some reason
  | _ => none

def nextSequence (events : List Event) : Nat :=
  events.foldl (fun seq event => max seq (event.seq + 1)) 0

def serializeToolResult (result : ToolResult) : Json :=
  match result.output with
  | none => .obj [("status", .str result.status.text)]
  | some output => .obj [("status", .str result.status.text), ("output", output)]

def serializeFailedToolResult (result : ToolResult) : Json :=
  match reasonOf result.output with
  | none => .obj [("status", .str "failed")]
  | some reason =>
    .obj [("status", .str "failed"), ("output", .obj [("reason", .str reason)])]

def deserializeFailedToolResult (value : Option Json) : Option ToolResult :=
  if sameText (value.bind (fun record => record.get? "status")) (some "failed") then
    match reasonOf (value.bind (fun record => record.get? "output")) with
    | none => some { status := .failed, output := none }
    | some reason => some (failedFor reason)
  else none

def deserializeToolResult (value : Option Json) : Option ToolResult :=
  let output := value.bind (fun record => record.get? "output")
  match value.bind (fun record => record.get? "status") with
  | some (.str "succeeded") => some { status := .succeeded, output }
  | some (.str "failed") => some { status := .failed, output }
  | some (.str "unknown") => some { status := .unknown, output }
  | _ => none

/-- `undefined` for a call without an identity. -/
def lifecycleRequestFor (gateway : BoundToolGateway) (request : ToolRequest) :
    Option ToolRequest :=
  if request.toolCallId = "" then none
  else some
    { request with
      workspaceId := gateway.scope.workspaceId
      channelId := gateway.scope.channelId
      workerProfileId := gateway.workerProfileId
      input := .null }

def toolLifecycleEventId (request : ToolRequest) (seq : Nat) : EventId :=
  let parts :=
    [Json.quote request.workspaceId, Json.quote request.channelId, Json.quote request.runId,
      Json.quote request.toolCallId, (toString seq).toList]
  "tool-lifecycle:" ++ String.ofList ('[' :: (Json.commaSeparated parts ++ [']']))

def toolStreamId (request : ToolRequest) : StreamId :=
  "tool:" ++ request.runId ++ ":" ++ request.toolCallId

def appendToolLifecycleEvent (request : ToolRequest) (type : String)
    (details : List (String × Json)) : Async Unit := do
  let durableEvents ← ask (.readStream (toolStreamId request) none)
  let seq := nextSequence durableEvents
  let timestamp ← ask .now
  ask (.append
    { id := toolLifecycleEventId request seq
      workspaceId := request.workspaceId
      channelId := request.channelId
      streamId := toolStreamId request
      seq, type, timestamp
      schemaVersion := 1
      payload := .obj
        ([("runId", .str request.runId), ("workerProfileId", .str request.workerProfileId),
            ("tool", .str request.name), ("toolCallId", .str request.toolCallId)] ++
          optionalField "effectKey" request.effectKey ++ runAttributionPayload request.toRunAttribution ++
          details) }
    none)

/-- A given reason replaces the one of the output. -/
def toolLifecycleResultDetails (result : ToolResult) (reason : Option String) :
    List (String × Json) :=
  let ownReason := if result.status = .succeeded then none else reasonOf result.output
  ("status", .str result.status.text) ::
    optionalField "reason" (reason.or ownReason)

def terminalResult (lifecycleRequest : ToolRequest) (result : ToolResult)
    (reason : Option String) : Async ToolResult := do
  let _ ← appendToolLifecycleEvent lifecycleRequest "tool.result"
    (toolLifecycleResultDetails result reason)
  return result

end AnnaAgent.Tools
