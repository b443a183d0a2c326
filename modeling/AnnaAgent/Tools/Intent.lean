/-
What a started event records of its call.

Two calls agree when they are the same but for the identity of the tool call
and the order of keys in their input.  As long as the digest tells the intents
of the calls apart, a call matches a started event exactly when it agrees with
the call that the event was recorded for.
-/

import AnnaAgent.Tools.System

namespace AnnaAgent.Tools

open Foundation EventStore

structure Agrees (first second : Cause) : Prop where
  scope : first.request.toChannelScope = second.request.toChannelScope
  attribution : first.request.toRunAttribution = second.request.toRunAttribution
  runId : first.request.runId = second.request.runId
  workerProfileId : first.request.workerProfileId = second.request.workerProfileId
  name : first.request.name = second.request.name
  input : Json.Same first.request.input second.request.input
  replayPolicy : first.replayPolicy = second.replayPolicy

theorem Agrees.symm {first second : Cause} (agrees : Agrees first second) : Agrees second first :=
  ⟨agrees.scope.symm, agrees.attribution.symm, agrees.runId.symm, agrees.workerProfileId.symm,
    agrees.name.symm, Eq.symm agrees.input, agrees.replayPolicy.symm⟩

theorem Agrees.trans {first second third : Cause} (early : Agrees first second)
    (late : Agrees second third) : Agrees first third :=
  ⟨early.scope.trans late.scope, early.attribution.trans late.attribution,
    early.runId.trans late.runId, early.workerProfileId.trans late.workerProfileId,
    early.name.trans late.name, Eq.trans early.input late.input,
    early.replayPolicy.trans late.replayPolicy⟩

theorem sameText_map {given text : Option String} :
    sameText (given.map Json.str) text = true ↔ given = text := by
  cases given with
  | none =>
    cases text with
    | none => exact ⟨fun _ => rfl, fun _ => rfl⟩
    | some text => exact ⟨fun impossible => (nomatch impossible), fun impossible => (nomatch impossible)⟩
  | some given =>
    cases text with
    | none => exact ⟨fun impossible => (nomatch impossible), fun impossible => (nomatch impossible)⟩
    | some text =>
      change decide (given = text) = true ↔ some given = some text
      rw [decide_eq_true_eq, Option.some.injEq]

theorem lookup_optionalField (key field : String) (value : Option String) :
    (optionalField field value).lookup key = if key = field then value.map Json.str else none := by
  cases value with
  | none =>
    change none = _
    split
    · rfl
    · rfl
  | some text =>
    change List.lookup key [(field, Json.str text)] = _
    rw [List.lookup_cons]
    by_cases same : key = field
    · rw [if_pos same, same, beq_self_eq_true]
      rfl
    · rw [if_neg same, beq_false_of_ne same]
      rfl

section Payload

variable {attribution : RunAttribution} {details : List (String × Json)}

theorem lookup_attribution (key : String) :
    (runAttributionPayload attribution ++ details).lookup key =
      ((if key = "parentRunId" then attribution.parentRunId.map Json.str else none).or
        ((if key = "parentEventId" then attribution.parentEventId.map Json.str else none).or
          ((if key = "laneId" then attribution.laneId.map Json.str else none).or
            (details.lookup key)))) := by
  unfold runAttributionPayload
  rw [List.lookup_append, List.lookup_append, List.lookup_append, lookup_optionalField,
    lookup_optionalField, lookup_optionalField, Option.or_assoc, Option.or_assoc]

theorem attribution_matches {payload : Json} {request : RunAttribution}
    (isRecord : payload.isRecord = true)
    (parentRunId : payload.get? "parentRunId" = attribution.parentRunId.map Json.str)
    (parentEventId : payload.get? "parentEventId" = attribution.parentEventId.map Json.str)
    (laneId : payload.get? "laneId" = attribution.laneId.map Json.str) :
    matchesRunAttribution payload request = true ↔ request = attribution := by
  unfold matchesRunAttribution
  rw [isRecord, parentRunId, parentEventId, laneId, Bool.true_and, Bool.and_eq_true,
    Bool.and_eq_true, sameText_map, sameText_map, sameText_map]
  constructor
  · rintro ⟨⟨sameRun, sameEvent⟩, sameLane⟩
    cases attribution
    cases request
    cases sameRun
    cases sameEvent
    cases sameLane
    rfl
  · intro same
    rw [same]
    exact ⟨⟨rfl, rfl⟩, rfl⟩

end Payload

def startedEvent (digest : String → String) (request : ToolRequest) (replayPolicy : ReplayPolicy)
    (effectKey : String) (id : EventId) (timestamp : Timestamp) (seq : Nat) : Event :=
  { id
    workspaceId := request.workspaceId
    channelId := request.channelId
    streamId := effectStreamId effectKey
    seq
    type := "tool.effect.started"
    timestamp
    schemaVersion := 1
    payload := effectPayload request replayPolicy effectKey
      [("intentHash", .str (effectIntentHash digest request replayPolicy))] }

section Started

variable {digest : String → String} {request recorded : ToolRequest}
  {replayPolicy recordedPolicy : ReplayPolicy} {effectKey : String} {id : EventId}
  {timestamp : Timestamp} {seq : Nat} {intentHash : String}

theorem effectPayload_get (recorded : ToolRequest) (recordedPolicy : ReplayPolicy)
    (effectKey : String) (details : List (String × Json)) :
    let payload := effectPayload recorded recordedPolicy effectKey details
    payload.get? "workspaceId" = some (.str recorded.workspaceId) ∧
      payload.get? "channelId" = some (.str recorded.channelId) ∧
      payload.get? "runId" = some (.str recorded.runId) ∧
      payload.get? "workerProfileId" = some (.str recorded.workerProfileId) ∧
      payload.get? "tool" = some (.str recorded.name) ∧
      payload.get? "effectKey" = some (.str effectKey) ∧
      payload.get? "replayPolicy" = some (.str recordedPolicy.text) :=
  ⟨rfl, rfl, rfl, rfl, rfl, rfl, rfl⟩

variable {details : List (String × Json)}

theorem effectPayload_lookup {key : String}
    (other : key ∉ ["workspaceId", "channelId", "runId", "workerProfileId", "tool", "effectKey", "replayPolicy"]) :
    (effectPayload recorded recordedPolicy effectKey details).get? key =
      (runAttributionPayload recorded.toRunAttribution ++ details).lookup key := by
  simp only [List.mem_cons, List.not_mem_nil, or_false, not_or] at other
  simp only [effectPayload, Json.get?, List.cons_append, List.nil_append,
    List.lookup_cons, beq_false_of_ne other.1, beq_false_of_ne other.2.1,
    beq_false_of_ne other.2.2.1, beq_false_of_ne other.2.2.2.1, beq_false_of_ne other.2.2.2.2.1,
    beq_false_of_ne other.2.2.2.2.2.1, beq_false_of_ne other.2.2.2.2.2.2]

theorem replayPolicy_text {first second : ReplayPolicy} (same : first.text = second.text) :
    first = second := by
  cases first with
  | never =>
    cases second with
    | never => rfl
    | safe => exact absurd same (by decide)
  | safe =>
    cases second with
    | never => exact absurd same (by decide)
    | safe => rfl

theorem sameText_str {text other : String} :
    sameText (some (.str text)) (some other) = true ↔ text = other := by
  change decide (text = other) = true ↔ _
  rw [decide_eq_true_eq]

theorem effectPayload_attribution {attribution : RunAttribution}
    (hidden : ∀ key ∈ ["parentRunId", "parentEventId", "laneId"], details.lookup key = none) :
    matchesRunAttribution (effectPayload recorded recordedPolicy effectKey details) attribution =
        true ↔ attribution = recorded.toRunAttribution := by
  refine attribution_matches rfl ?_ ?_ ?_
  · rw [effectPayload_lookup (by decide), lookup_attribution, hidden _ (by decide)]
    simp
  · rw [effectPayload_lookup (by decide), lookup_attribution, hidden _ (by decide)]
    simp
  · rw [effectPayload_lookup (by decide), lookup_attribution, hidden _ (by decide)]
    simp

theorem startedEvent_matches :
    matchesEffectIntent (startedEvent digest recorded recordedPolicy effectKey id timestamp seq)
        request replayPolicy intentHash = true ↔
      recorded.toChannelScope = request.toChannelScope ∧ recorded.runId = request.runId ∧
        recorded.workerProfileId = request.workerProfileId ∧ recorded.name = request.name ∧
        request.effectKey = some effectKey ∧
        request.toRunAttribution = recorded.toRunAttribution ∧
        recordedPolicy = replayPolicy ∧
        effectIntentHash digest recorded recordedPolicy = intentHash := by
  have fields := effectPayload_get recorded recordedPolicy effectKey
    [("intentHash", .str (effectIntentHash digest recorded recordedPolicy))]
  have ownHash : (effectPayload recorded recordedPolicy effectKey
      [("intentHash", .str (effectIntentHash digest recorded recordedPolicy))]).get? "intentHash" =
      some (.str (effectIntentHash digest recorded recordedPolicy)) := by
    rw [effectPayload_lookup (by decide), lookup_attribution]
    simp
  have hidden : ∀ key ∈ ["parentRunId", "parentEventId", "laneId"],
      List.lookup key
        [("intentHash", Json.str (effectIntentHash digest recorded recordedPolicy))] = none := by
    intro key member
    simp only [List.mem_cons, List.not_mem_nil, or_false] at member
    rcases member with isKey | isKey | isKey
    all_goals
      rw [isKey]
      rfl
  have ownKey : sameText (some (.str effectKey)) request.effectKey = true ↔
      request.effectKey = some effectKey := by
    rw [← Option.map_some, sameText_map]
    exact eq_comm
  have scopes : recorded.toChannelScope = request.toChannelScope ↔
      recorded.workspaceId = request.workspaceId ∧ recorded.channelId = request.channelId := by
    constructor
    · intro same
      exact ⟨congrArg ChannelScope.workspaceId same, congrArg ChannelScope.channelId same⟩
    · rintro ⟨sameWorkspace, sameChannel⟩
      cases isRecorded : recorded.toChannelScope
      cases isRequest : request.toChannelScope
      rw [isRecorded, isRequest] at sameWorkspace sameChannel
      cases sameWorkspace
      cases sameChannel
      rfl
  unfold matchesEffectIntent isEffect startedEvent
  dsimp only
  rw [fields.1, fields.2.1, fields.2.2.1, fields.2.2.2.1, fields.2.2.2.2.1, fields.2.2.2.2.2.1,
    fields.2.2.2.2.2.2, ownHash]
  simp only [Bool.and_eq_true, decide_eq_true_eq, sameText_str, true_and]
  rw [ownKey, effectPayload_attribution hidden, scopes]
  constructor
  · rintro ⟨⟨_, _, _, sameWorkspace, sameChannel, sameRun, sameWorker, sameName, sameKey,
      sameAttribution, samePolicy⟩, sameHash⟩
    exact ⟨⟨sameWorkspace, sameChannel⟩, sameRun, sameWorker, sameName, sameKey, sameAttribution,
      replayPolicy_text samePolicy, sameHash⟩
  · rintro ⟨⟨sameWorkspace, sameChannel⟩, sameRun, sameWorker, sameName, sameKey,
      sameAttribution, samePolicy, sameHash⟩
    exact ⟨⟨sameWorkspace, sameChannel, rfl, sameWorkspace, sameChannel, sameRun, sameWorker,
      sameName, sameKey, sameAttribution, congrArg ReplayPolicy.text samePolicy⟩, sameHash⟩

end Started

def World.CalledWith (world : World) (cause : Cause) : Prop :=
  (∃ execution ∈ world.executions, execution.cause = cause) ∨
    ∃ joined ∈ world.joins, joined.cause = cause

/-- No two calls of effects have intents with different texts and one digest. -/
def DistinctIntents (digest : String → String) (world : World) : Prop :=
  ∀ first second firstPolicy secondPolicy,
    world.CalledWith ⟨first, some firstPolicy⟩ → world.CalledWith ⟨second, some secondPolicy⟩ →
    digest (effectIntent first firstPolicy).stableJson =
      digest (effectIntent second secondPolicy).stableJson →
    (effectIntent first firstPolicy).stableJson = (effectIntent second secondPolicy).stableJson

/-- The code's comparison of a call with a started event. -/
def matchesCause (digest : String → String) (event : Event) (cause : Cause) : Bool :=
  match cause.replayPolicy with
  | some replayPolicy =>
    matchesEffectIntent event cause.request replayPolicy
      (effectIntentHash digest cause.request replayPolicy)
  | none => false

section Distinct

variable {digest : String → String} {world : World} {first second : ToolRequest}
  {firstPolicy secondPolicy : ReplayPolicy}

theorem effectIntent_same
    (same : (effectIntent first firstPolicy).stableJson =
      (effectIntent second secondPolicy).stableJson) :
    first.toChannelScope = second.toChannelScope ∧ first.runId = second.runId ∧
      first.workerProfileId = second.workerProfileId ∧ first.name = second.name ∧
      Json.Same first.input second.input ∧ firstPolicy = secondPolicy := by
  have sameIntent := (Json.stableJson_eq_iff _ _).1 same
  unfold Json.Same effectIntent at sameIntent
  simp only [Json.sortKeys, Json.sortItems, Json.arr.injEq, List.cons.injEq, Json.str.injEq,
    and_true] at sameIntent
  rcases sameIntent with
    ⟨sameWorkspace, sameChannel, sameRun, sameWorker, sameName, samePolicy, sameInput⟩
  refine ⟨?_, sameRun, sameWorker, sameName, sameInput, replayPolicy_text samePolicy⟩
  cases isFirst : first.toChannelScope
  cases isSecond : second.toChannelScope
  rw [isFirst, isSecond] at sameWorkspace sameChannel
  cases sameWorkspace
  cases sameChannel
  rfl

theorem effectIntentHash_eq
    (same : effectIntentHash digest first firstPolicy = effectIntentHash digest second secondPolicy) :
    digest (effectIntent first firstPolicy).stableJson =
      digest (effectIntent second secondPolicy).stableJson := by
  have chars := congrArg String.toList same
  unfold effectIntentHash at chars
  rw [String.toList_append, String.toList_append] at chars
  exact String.toList_inj.1 (List.append_cancel_left chars)

theorem agrees_of_matches {effectKey : String} {id : EventId} {timestamp : Timestamp} {seq : Nat}
    (distinct : DistinctIntents digest world)
    (firstCalled : world.CalledWith ⟨first, some firstPolicy⟩)
    (secondCalled : world.CalledWith ⟨second, some secondPolicy⟩)
    (isMatch : matchesCause digest
      (startedEvent digest second secondPolicy effectKey id timestamp seq)
      ⟨first, some firstPolicy⟩ = true) :
    Agrees ⟨first, some firstPolicy⟩ ⟨second, some secondPolicy⟩ := by
  rcases startedEvent_matches.1 isMatch with
    ⟨_, _, _, _, _, sameAttribution, _, sameHash⟩
  rcases effectIntent_same (distinct _ _ _ _ secondCalled firstCalled
      (effectIntentHash_eq sameHash)) with
    ⟨sameScope, sameRun, sameWorker, sameName, sameInput, samePolicy⟩
  exact ⟨sameScope.symm, sameAttribution, sameRun.symm, sameWorker.symm, sameName.symm,
    Eq.symm sameInput, congrArg some samePolicy.symm⟩

theorem matches_own {effectKey : String} {id : EventId} {timestamp : Timestamp} {seq : Nat}
    (isKey : first.effectKey = some effectKey) :
    matchesCause digest (startedEvent digest first firstPolicy effectKey id timestamp seq)
      ⟨first, some firstPolicy⟩ = true :=
  startedEvent_matches.2 ⟨rfl, rfl, rfl, rfl, isKey, rfl, rfl, rfl⟩

end Distinct

end AnnaAgent.Tools
