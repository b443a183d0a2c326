/-
What the durable path replays.

A stream that holds the started event of a call and the outcome of its execution answers
the call with that outcome, but for what a failure does not record.
-/

import AnnaAgent.Tools.Intent

namespace AnnaAgent.Tools

open Foundation EventStore

def effectEvent (request : ToolRequest) (replayPolicy : ReplayPolicy) (effectKey : String)
    (id : EventId) (timestamp : Timestamp) (seq : Nat) (type : String)
    (details : List (String × Json)) : Event :=
  { id
    workspaceId := request.workspaceId
    channelId := request.channelId
    streamId := effectStreamId effectKey
    seq, type, timestamp
    schemaVersion := 1
    payload := effectPayload request replayPolicy effectKey details }

/-- What is left of a failed result in its event. -/
def reasonOnly (result : ToolResult) : ToolResult :=
  { status := .failed
    output := (reasonOf result.output).map (fun reason => .obj [("reason", .str reason)]) }

def Replays (result replayed : ToolResult) : Prop :=
  replayed = result ∨ result.status = .failed ∧ replayed = reasonOnly result

/-- The terminal events of an execution that ends with a result. -/
inductive RecordsOutcome (effectKey : String) (result : ToolResult) :
    String → List (String × Json) → Prop
  | cancelled : RecordsOutcome effectKey result "tool.effect.cancelled"
      [("result", serializeToolResult result)]
  | succeeded (isSucceeded : result.status = .succeeded) :
      RecordsOutcome effectKey result "tool.effect.succeeded"
        [("result", serializeToolResult result)]
  | failed (isFailed : result.status = .failed) :
      RecordsOutcome effectKey result "tool.effect.failed"
        [("result", serializeFailedToolResult result)]
  | unknown (isUnknown : result = unknownEffectResult effectKey) :
      RecordsOutcome effectKey result "tool.effect.unknown"
        [("reason", .str "effect_outcome_unknown")]

section Events

variable {request : ToolRequest} {replayPolicy : ReplayPolicy} {effectKey intentHash : String}
  {id : EventId} {timestamp : Timestamp} {seq : Nat} {type : String}
  {details : List (String × Json)}

theorem effectEvent_isEffect (replayPolicy : ReplayPolicy) (id : EventId) (timestamp : Timestamp)
    (seq : Nat) (type : String) (isKey : request.effectKey = some effectKey)
    (hidden : ∀ key ∈ ["parentRunId", "parentEventId", "laneId"], details.lookup key = none)
    (other : String) :
    isEffect (effectEvent request replayPolicy effectKey id timestamp seq type details) request
      replayPolicy other = decide (type = other) := by
  have fields := effectPayload_get request replayPolicy effectKey details
  have attribution : matchesRunAttribution (effectPayload request replayPolicy effectKey details)
      request.toRunAttribution = true := (effectPayload_attribution hidden).mpr rfl
  have isRecord : (effectPayload request replayPolicy effectKey details).isRecord = true := rfl
  unfold isEffect effectEvent
  dsimp only
  rw [fields.1, fields.2.1, fields.2.2.1, fields.2.2.2.1, fields.2.2.2.2.1, fields.2.2.2.2.2.1,
    fields.2.2.2.2.2.2, attribution, isRecord, isKey]
  simp [sameText]

theorem isEffect_type {event : Event} {other : String}
    (isOther : isEffect event request replayPolicy other = true) : event.type = other := by
  unfold isEffect at isOther
  rw [Bool.and_eq_true, decide_eq_true_eq] at isOther
  exact isOther.1

theorem isEffect_of_type {event : Event} {other : String} (isOther : event.type ≠ other) :
    isEffect event request replayPolicy other = false := by
  cases isEffect' : isEffect event request replayPolicy other with
  | false => rfl
  | true => exact absurd (isEffect_type isEffect') isOther

theorem isSucceededEffect_of_type {event : Event} (isOther : event.type ≠ "tool.effect.succeeded") :
    isSucceededEffect event request replayPolicy = false := by
  unfold isSucceededEffect
  rw [isEffect_of_type isOther, Bool.false_and]

end Events

theorem deserializeFailed_serialized (result : ToolResult) :
    deserializeFailedToolResult (some (serializeFailedToolResult result)) =
      some (reasonOnly result) := by
  unfold serializeFailedToolResult reasonOnly
  cases reasonOf result.output with
  | none => rfl
  | some reason => rfl

theorem deserialize_serialized (result : ToolResult) :
    deserializeToolResult (some (serializeToolResult result)) = some result := by
  rcases result with ⟨status, output⟩
  cases status with
  | succeeded | failed | unknown =>
    cases output with
    | none => rfl
    | some output => rfl

section Read

variable {request : ToolRequest} {replayPolicy : ReplayPolicy} {effectKey intentHash : String}
  {started : Event}

theorem recordedEffect_started (isStarted : started.type = "tool.effect.started")
    (isMatch : matchesEffectIntent started request replayPolicy intentHash = true) :
    recordedEffect [started] request replayPolicy effectKey intentHash = .orphaned started.seq := by
  have isOwn : isEffect started request replayPolicy "tool.effect.started" = true := by
    unfold matchesEffectIntent at isMatch
    exact ((Bool.and_eq_true _ _).mp isMatch).1
  have differs : ∀ other, "tool.effect.started" ≠ other →
      isEffect started request replayPolicy other = false := by
    intro other apart
    apply isEffect_of_type
    rw [isStarted]
    exact apart
  have notSucceeded : isSucceededEffect started request replayPolicy = false := by
    apply isSucceededEffect_of_type
    rw [isStarted]
    decide
  simp [recordedEffect, isMatch, isOwn, notSucceeded, differs]

theorem recordedEffect_finished (isStarted : started.type = "tool.effect.started")
    (isMatch : matchesEffectIntent started request replayPolicy intentHash = true)
    {terminal : Event} (isTerminal : terminal.type ≠ "tool.effect.started") :
    recordedEffect [started, terminal] request replayPolicy effectKey intentHash =
      if isSucceededEffect terminal request replayPolicy then .result (succeededResult terminal)
      else if isEffect terminal request replayPolicy "tool.effect.failed" then
        .result (failedResult terminal)
      else if isEffect terminal request replayPolicy "tool.effect.cancelled" then
        .result (cancelledResult terminal)
      else if isEffect terminal request replayPolicy "tool.effect.unknown" then
        .result (unknownEffectResult effectKey)
      else .orphaned started.seq := by
  have isOwn : isEffect started request replayPolicy "tool.effect.started" = true := by
    unfold matchesEffectIntent at isMatch
    exact ((Bool.and_eq_true _ _).mp isMatch).1
  have differs : ∀ other, "tool.effect.started" ≠ other →
      isEffect started request replayPolicy other = false := by
    intro other apart
    apply isEffect_of_type
    rw [isStarted]
    exact apart
  have notSucceeded : isSucceededEffect started request replayPolicy = false := by
    apply isSucceededEffect_of_type
    rw [isStarted]
    decide
  cases isSucceeded : isSucceededEffect terminal request replayPolicy with
  | true => simp [recordedEffect, isMatch, isTerminal, notSucceeded, isSucceeded]
  | false =>
    cases isFailed : isEffect terminal request replayPolicy "tool.effect.failed" with
    | true =>
      simp [recordedEffect, isMatch, isTerminal, notSucceeded, isSucceeded, differs, isFailed]
    | false =>
      cases isCancelled : isEffect terminal request replayPolicy "tool.effect.cancelled" with
      | true =>
        simp [recordedEffect, isMatch, isTerminal, notSucceeded, isSucceeded, differs,
          isFailed, isCancelled]
      | false =>
        simp [recordedEffect, isMatch, isTerminal, notSucceeded, isSucceeded, differs,
          isFailed, isCancelled, isOwn]

theorem recorded_outcome (id : EventId) (timestamp : Timestamp) (seq : Nat)
    (isStarted : started.type = "tool.effect.started")
    (isMatch : matchesEffectIntent started request replayPolicy intentHash = true)
    (isKey : request.effectKey = some effectKey) {result : ToolResult} {type : String}
    {details : List (String × Json)} (records : RecordsOutcome effectKey result type details) :
    ∃ replayed, recordedEffect
        [started, effectEvent request replayPolicy effectKey id timestamp seq type details] request
        replayPolicy effectKey intentHash = .result replayed ∧ Replays result replayed := by
  have resultHidden : ∀ value : Json, ∀ key ∈ ["parentRunId", "parentEventId", "laneId"],
      List.lookup key [("result", value)] = none := by
    intro value key member
    simp only [List.mem_cons, List.not_mem_nil, or_false] at member
    rcases member with rfl | rfl | rfl
    all_goals rfl
  have readResult : ∀ (type : String) (value : Json),
      (effectEvent request replayPolicy effectKey id timestamp seq type
        [("result", value)]).payload.get? "result" = some value := by
    intro type value
    change (effectPayload request replayPolicy effectKey [("result", value)]).get? "result" = _
    rw [effectPayload_lookup (by decide), lookup_attribution]
    simp
  cases records with
  | cancelled =>
    have own := effectEvent_isEffect replayPolicy id timestamp seq "tool.effect.cancelled" isKey
      (resultHidden (serializeToolResult result))
    refine ⟨result, ?_, Or.inl rfl⟩
    rw [recordedEffect_finished isStarted isMatch (by decide : "tool.effect.cancelled" ≠ _),
      isSucceededEffect_of_type (by decide : "tool.effect.cancelled" ≠ _), own, own]
    unfold cancelledResult
    rw [readResult, deserialize_serialized]
    rfl
  | succeeded isSucceeded =>
    have own := effectEvent_isEffect replayPolicy id timestamp seq "tool.effect.succeeded" isKey
      (resultHidden (serializeToolResult result))
    refine ⟨result, ?_, Or.inl rfl⟩
    have found : isSucceededEffect (effectEvent request replayPolicy effectKey id timestamp seq
        "tool.effect.succeeded" [("result", serializeToolResult result)]) request
        replayPolicy = true := by
      unfold isSucceededEffect
      rw [own, readResult]
      unfold serializeToolResult
      rw [isSucceeded]
      cases result.output with
      | none => rfl
      | some output => rfl
    rw [recordedEffect_finished isStarted isMatch (by decide : "tool.effect.succeeded" ≠ _),
      if_pos found]
    unfold succeededResult
    rw [readResult]
    rcases result with ⟨status, output⟩
    cases isSucceeded
    cases output with
    | none => rfl
    | some output => rfl
  | failed isFailed =>
    have own := effectEvent_isEffect replayPolicy id timestamp seq "tool.effect.failed" isKey
      (resultHidden (serializeFailedToolResult result))
    refine ⟨reasonOnly result, ?_, Or.inr ⟨isFailed, rfl⟩⟩
    rw [recordedEffect_finished isStarted isMatch (by decide : "tool.effect.failed" ≠ _),
      isSucceededEffect_of_type (by decide : "tool.effect.failed" ≠ _), own]
    unfold failedResult
    rw [readResult, deserializeFailed_serialized]
    rfl
  | unknown isUnknown =>
    have reasonHidden : ∀ key ∈ ["parentRunId", "parentEventId", "laneId"],
        List.lookup key [("reason", Json.str "effect_outcome_unknown")] = none := by
      intro key member
      simp only [List.mem_cons, List.not_mem_nil, or_false] at member
      rcases member with rfl | rfl | rfl
      all_goals rfl
    have own := effectEvent_isEffect replayPolicy id timestamp seq "tool.effect.unknown" isKey
      reasonHidden
    refine ⟨result, ?_, Or.inl rfl⟩
    rw [recordedEffect_finished isStarted isMatch (by decide : "tool.effect.unknown" ≠ _),
      isSucceededEffect_of_type (by decide : "tool.effect.unknown" ≠ _), own, own, own, isUnknown]
    rfl

end Read

section Agree

variable {digest : String → String} {first second : ToolRequest}
  {firstPolicy secondPolicy : ReplayPolicy} {effectKey : String}

section

variable (agrees : Agrees ⟨first, some firstPolicy⟩ ⟨second, some secondPolicy⟩)

include agrees

theorem effectIntentHash_of_agrees :
    effectIntentHash digest first firstPolicy = effectIntentHash digest second secondPolicy := by
  have sameScope := agrees.scope
  have sameInput := agrees.input
  have samePolicy : firstPolicy = secondPolicy := Option.some.inj agrees.replayPolicy
  have sameText : (effectIntent first firstPolicy).stableJson =
      (effectIntent second secondPolicy).stableJson := by
    apply (Json.stableJson_eq_iff _ _).mpr
    unfold Json.Same effectIntent at *
    have sameWorkspace := congrArg ChannelScope.workspaceId sameScope
    have sameChannel := congrArg ChannelScope.channelId sameScope
    dsimp only at sameWorkspace sameChannel sameInput
    simp only [Json.sortKeys, Json.sortItems]
    rw [sameWorkspace, sameChannel, agrees.runId, agrees.workerProfileId, agrees.name, samePolicy,
      sameInput]
  unfold effectIntentHash
  rw [sameText]

theorem isEffect_of_agrees (sameKey : first.effectKey = second.effectKey) (event : Event)
    (type : String) :
    isEffect event first firstPolicy type = isEffect event second secondPolicy type := by
  have sameWorkspace := congrArg ChannelScope.workspaceId agrees.scope
  have sameChannel := congrArg ChannelScope.channelId agrees.scope
  have sameAttribution := agrees.attribution
  have sameRun := agrees.runId
  have sameWorker := agrees.workerProfileId
  have sameName := agrees.name
  have samePolicy : firstPolicy = secondPolicy := Option.some.inj agrees.replayPolicy
  dsimp only at sameWorkspace sameChannel sameAttribution sameRun sameWorker sameName
  unfold isEffect
  rw [sameWorkspace, sameChannel, sameAttribution, sameRun, sameWorker, sameName, sameKey,
    samePolicy]

theorem matchesEffectIntent_of_agrees (sameKey : first.effectKey = second.effectKey) (event : Event)
    :
    matchesEffectIntent event first firstPolicy (effectIntentHash digest first firstPolicy) =
      matchesEffectIntent event second secondPolicy
        (effectIntentHash digest second secondPolicy) := by
  unfold matchesEffectIntent
  rw [isEffect_of_agrees agrees sameKey, effectIntentHash_of_agrees agrees]

theorem recordedEffect_of_agrees (sameKey : first.effectKey = second.effectKey)
    (durableEvents : List Event) :
    recordedEffect durableEvents first firstPolicy effectKey
        (effectIntentHash digest first firstPolicy) =
      recordedEffect durableEvents second secondPolicy effectKey
        (effectIntentHash digest second secondPolicy) := by
  unfold recordedEffect isSucceededEffect
  simp only [isEffect_of_agrees agrees sameKey, matchesEffectIntent_of_agrees agrees sameKey]

end

end Agree

end AnnaAgent.Tools
