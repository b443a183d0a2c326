/-
The effect ledger (`harness-v2/src/tool-effects.ts`).

The hash of an intent is `sha256` of its stable text; the digest is a
parameter.  A signal that is aborted is one that a request finds aborted.
-/

import AnnaAgent.Tools.Events

namespace AnnaAgent.Tools

open Foundation EventStore

variable (digest : String → String)

def effectStreamId (effectKey : String) : StreamId := "effect:" ++ effectKey

/-- Fields of a record that are compared with a request. -/
def isEffect (event : Event) (request : ToolRequest) (replayPolicy : ReplayPolicy)
    (type : String) : Bool :=
  decide (event.type = type) &&
    (decide (event.workspaceId = request.workspaceId) &&
      (decide (event.channelId = request.channelId) &&
        (event.payload.isRecord &&
          (sameText (event.payload.get? "workspaceId") (some request.workspaceId) &&
            (sameText (event.payload.get? "channelId") (some request.channelId) &&
              (sameText (event.payload.get? "runId") (some request.runId) &&
                (sameText (event.payload.get? "workerProfileId") (some request.workerProfileId) &&
                  (sameText (event.payload.get? "tool") (some request.name) &&
                    (sameText (event.payload.get? "effectKey") request.effectKey &&
                      (matchesRunAttribution event.payload request.toRunAttribution &&
                        sameText (event.payload.get? "replayPolicy")
                          (some replayPolicy.text)))))))))))

def isSucceededEffect (event : Event) (request : ToolRequest) (replayPolicy : ReplayPolicy) :
    Bool :=
  isEffect event request replayPolicy "tool.effect.succeeded" &&
    (match event.payload.get? "result" with
      | some result => result.isRecord && sameText (result.get? "status") (some "succeeded")
      | none => false)

def isCancelledResult (result : ToolResult) (aborted : Bool) : Bool :=
  aborted || decide (reasonOf result.output = some "cancelled")

/-- What a hash stands for. -/
def effectIntent (request : ToolRequest) (replayPolicy : ReplayPolicy) : Json :=
  .arr [.str request.workspaceId, .str request.channelId, .str request.runId,
    .str request.workerProfileId, .str request.name, .str replayPolicy.text, request.input]

def effectIntentHash (request : ToolRequest) (replayPolicy : ReplayPolicy) : String :=
  "sha256:" ++ digest (effectIntent request replayPolicy).stableJson

def matchesEffectIntent (event : Event) (request : ToolRequest) (replayPolicy : ReplayPolicy)
    (intentHash : String) : Bool :=
  isEffect event request replayPolicy "tool.effect.started" &&
    sameText (event.payload.get? "intentHash") (some intentHash)

def unknownEffectResult (effectKey : String) : ToolResult :=
  { status := .unknown
    output := some (.obj
      [("reason", .str "effect_outcome_unknown"), ("effectKey", .str effectKey)]) }

def effectPayload (request : ToolRequest) (replayPolicy : ReplayPolicy) (effectKey : String)
    (details : List (String × Json)) : Json :=
  .obj
    ([("workspaceId", .str request.workspaceId), ("channelId", .str request.channelId),
        ("runId", .str request.runId), ("workerProfileId", .str request.workerProfileId),
        ("tool", .str request.name), ("effectKey", .str effectKey),
        ("replayPolicy", .str replayPolicy.text)] ++
      runAttributionPayload request.toRunAttribution ++ details)

def appendEffect (request : ToolRequest) (replayPolicy : ReplayPolicy) (effectKey : String)
    (seq : Nat) (type : String) (details : List (String × Json)) : Async Unit := do
  let id ← ask .createEventId
  let timestamp ← ask .now
  ask (.append
    { id
      workspaceId := request.workspaceId
      channelId := request.channelId
      streamId := effectStreamId effectKey
      seq, type, timestamp
      schemaVersion := 1
      payload := effectPayload request replayPolicy effectKey details }
    (some { request, replayPolicy := some replayPolicy }))

def appendUnknownEffectTerminal (request : ToolRequest) (replayPolicy : ReplayPolicy)
    (effectKey : String) (startedSeq : Nat) : Async ToolResult := do
  let _ ← appendEffect request replayPolicy effectKey (startedSeq + 1) "tool.effect.unknown"
    [("reason", .str "effect_outcome_unknown")]
  return unknownEffectResult effectKey

/-- Where a call stands when it has read the stream: it has its result, it
finds an effect that was started and never finished, or it may start. -/
inductive Recorded where
  | result (result : ToolResult)
  | orphaned (startedSeq : Nat)
  | unrecorded

def effectKeyConflict : ToolResult := failedFor "effect_key_conflict"

def succeededResult (event : Event) : ToolResult :=
  { status := .succeeded
    output := (event.payload.get? "result").bind (fun result => result.get? "output") }

def failedResult (event : Event) : ToolResult :=
  (deserializeFailedToolResult (event.payload.get? "result")).getD
    { status := .failed, output := none }

def cancelledResult (event : Event) : ToolResult :=
  (deserializeToolResult (event.payload.get? "result")).getD
    { status := .failed, output := none }

/-- The returns before the started event is appended, in their order. -/
def recordedEffect (durableEvents : List Event) (request : ToolRequest)
    (replayPolicy : ReplayPolicy) (effectKey intentHash : String) : Recorded :=
  if durableEvents.any (fun event => decide (event.type = "tool.effect.started") &&
      !matchesEffectIntent event request replayPolicy intentHash) then
    .result effectKeyConflict
  else
    match durableEvents.find? (fun event => isSucceededEffect event request replayPolicy) with
    | some event => .result (succeededResult event)
    | none =>
      match durableEvents.find? (fun event =>
          isEffect event request replayPolicy "tool.effect.failed") with
      | some event => .result (failedResult event)
      | none =>
        match durableEvents.find? (fun event =>
            isEffect event request replayPolicy "tool.effect.cancelled") with
        | some event => .result (cancelledResult event)
        | none =>
          if durableEvents.any (fun event =>
              isEffect event request replayPolicy "tool.effect.unknown") then
            .result (unknownEffectResult effectKey)
          else
            match durableEvents.find? (fun event =>
                isEffect event request replayPolicy "tool.effect.started") with
            | some event => .orphaned event.seq
            | none => .unrecorded

/-- The sandbox as a gateway passes it on: under `allow` it is not called once
the signal is aborted. -/
inductive Sandbox where
  | direct
  | cancellable

def Sandbox.execute (sandbox : Sandbox) (request : ToolRequest)
    (replayPolicy : Option ReplayPolicy) : Async ToolResult :=
  match sandbox with
  | .direct => ask (.sandboxExecute request replayPolicy)
  | .cancellable => do
      let aborted ← ask .aborted
      if aborted then return failedFor "cancelled"
      else ask (.sandboxExecute request replayPolicy)

/-- The terminal event of a result that is not unknown. -/
def appendOutcome (request : ToolRequest) (replayPolicy : ReplayPolicy) (effectKey : String)
    (startedSeq : Nat) (result : ToolResult) (cancelled : Bool) : Async Unit :=
  if cancelled then
    appendEffect request replayPolicy effectKey (startedSeq + 1) "tool.effect.cancelled"
      [("result", serializeToolResult result)]
  else
    match result.status with
    | .succeeded =>
      appendEffect request replayPolicy effectKey (startedSeq + 1) "tool.effect.succeeded"
        [("result", serializeToolResult result)]
    | .failed =>
      appendEffect request replayPolicy effectKey (startedSeq + 1) "tool.effect.failed"
        [("result", serializeFailedToolResult result)]
    | .unknown => return ()

def startEffect (sandbox : Sandbox) (request : ToolRequest) (replayPolicy : ReplayPolicy)
    (effectKey intentHash : String) (startedSeq : Nat) : Async ToolResult := do
  let _ ← appendEffect request replayPolicy effectKey startedSeq "tool.effect.started"
    [("intentHash", .str intentHash)]
  match ← (sandbox.execute request (some replayPolicy)).attempt with
  | .error _ => appendUnknownEffectTerminal request replayPolicy effectKey startedSeq
  | .ok result =>
    if result.status = .unknown then
      appendUnknownEffectTerminal request replayPolicy effectKey startedSeq
    else do
      let aborted ← ask .aborted
      let _ ← appendOutcome request replayPolicy effectKey startedSeq result
        (isCancelledResult result aborted)
      return result

def executeDurableEffect (sandbox : Sandbox) (request : ToolRequest)
    (replayPolicy : ReplayPolicy) (intentHash : String) : Async ToolResult :=
  match request.effectKey with
  | none => return { status := .failed, output := none }
  | some effectKey => do
      let durableEvents ← ask (.readStream (effectStreamId effectKey) none)
      match recordedEffect durableEvents request replayPolicy effectKey intentHash with
      | .result result => return result
      | .orphaned startedSeq =>
        appendUnknownEffectTerminal request replayPolicy effectKey startedSeq
      | .unrecorded =>
        startEffect sandbox request replayPolicy effectKey intentHash (nextSequence durableEvents)

def executionKey (request : ToolRequest) (replayPolicy : ReplayPolicy)
    (effectKey intentHash : String) : String :=
  String.ofList (Json.arr [.str request.workspaceId, .str request.channelId,
    .str (effectStreamId effectKey), .str replayPolicy.text, .str intentHash]).chars

/-- The promise of an execution is settled before it is removed from the
executions in flight. -/
def runExecution (execution : ExecutionId) (key : String) (body : Async ToolResult) :
    Async ToolResult := do
  let outcome ← body.attempt
  let _ ← ask (.settle execution outcome)
  let _ ← ask (.removeInFlight key execution)
  Program.lift outcome

def executeEffect (sandbox : Sandbox) (request : ToolRequest) (replayPolicy : ReplayPolicy) :
    Async ToolResult :=
  match request.effectKey with
  | none => return { status := .failed, output := none }
  | some effectKey => do
      let intentHash := effectIntentHash digest request replayPolicy
      let key := executionKey request replayPolicy effectKey intentHash
      match ← ask (.coordinate key { request, replayPolicy := some replayPolicy }) with
      | .joined execution => ask (.awaitExecution execution)
      | .entered execution =>
        runExecution execution key (executeDurableEffect sandbox request replayPolicy intentHash)

end AnnaAgent.Tools
