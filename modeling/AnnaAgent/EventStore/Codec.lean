/-
Stored values, their stable text and the keys they are stored under
(`event-store/src/codec.ts`).

A start command carries the fields that the stores and the run lifecycle look
at; its other fields have been checked by its parser and are kept as they are.
-/

import AnnaAgent.Foundation.Json
import AnnaAgent.EventStore.Contracts

namespace AnnaAgent.EventStore

open Foundation

abbrev LaneId := String

structure StartRun extends ChannelScope where
  commandId : CommandId
  runId : RunId
  parentRunId : Option RunId
  parentEventId : Option EventId
  laneId : Option LaneId
  /-- The fields from `surfaceId` to `notificationAudience`. -/
  details : List (String × Json)
  deriving DecidableEq

structure ChannelSession extends ChannelScope where
  id : String

structure ProjectionSnapshot where
  state : Json
  version : Int
  lastSeq : Int

/-- The state is what `parseJsonValue` makes of the given one. -/
structure ProjectionCommit where
  projector : String
  streamId : StreamId
  eventId : EventId
  eventSeq : Int
  expectedVersion : Int
  state : Except Thrown Json

structure ProjectionCommitResult extends ProjectionSnapshot where
  applied : Bool

def CanonicalEvent.scope {Payload : Type} (event : CanonicalEvent Payload) : ChannelScope :=
  { workspaceId := event.workspaceId
    channelId := event.channelId }

def assertScope (scope value : ChannelScope) : Except Thrown Unit :=
  if value ≠ scope then .error .eventScopeMismatchError else .ok ()

theorem assertScope_ok {scope value : ChannelScope} {done : Unit}
    (checked : assertScope scope value = .ok done) : value = scope := by
  unfold assertScope at checked
  split at checked
  · cases checked
  · rename_i same
    exact not_not.1 same

def parseOptionalId (input : Option String) (name : String) : Except Thrown (Option String) :=
  match input with
  | none => .ok none
  | some text => do
      let id ← parseId text name
      return some id

def cloneStartRun (command : StartRun) : Except Thrown StartRun := do
  let parentRunId ← parseOptionalId command.parentRunId "StartRun.parentRunId"
  let parentEventId ← parseOptionalId command.parentEventId "StartRun.parentEventId"
  if parentRunId.isNone ≠ parentEventId.isNone then
    .error (.schemaValidationError
      "StartRun.parentRunId and StartRun.parentEventId must be provided together")
  else do
    let laneId ← parseOptionalId command.laneId "StartRun.laneId"
    let commandId ← parseId command.commandId "StartRun.commandId"
    let runId ← parseId command.runId "StartRun.runId"
    let workspaceId ← parseId command.workspaceId "StartRun.workspaceId"
    let channelId ← parseId command.channelId "StartRun.channelId"
    return { workspaceId, channelId, commandId, runId, parentRunId, parentEventId, laneId
             details := command.details }

def cloneSession (session : ChannelSession) : Except Thrown ChannelSession := do
  let id ← parseId session.id "ChannelSession.id"
  let workspaceId ← parseId session.workspaceId "ChannelSession.workspaceId"
  let channelId ← parseId session.channelId "ChannelSession.channelId"
  return { workspaceId, channelId, id }

def optionalText (key : String) : Option String → List (String × Json)
  | none => []
  | some text => [(key, .str text)]

def CanonicalEvent.json (event : CanonicalEvent Json) : Json :=
  .obj [("id", .str event.id), ("workspaceId", .str event.workspaceId),
    ("channelId", .str event.channelId), ("streamId", .str event.streamId),
    ("seq", .num (.ofNat event.seq)), ("type", .str event.type),
    ("timestamp", .str event.timestamp), ("schemaVersion", .num (.ofNat event.schemaVersion)),
    ("payload", event.payload)]

def StartRun.json (command : StartRun) : Json :=
  .obj
    ([("commandId", .str command.commandId), ("runId", .str command.runId),
        ("workspaceId", .str command.workspaceId), ("channelId", .str command.channelId)] ++
      command.details ++ optionalText "parentRunId" command.parentRunId ++
      optionalText "parentEventId" command.parentEventId ++ optionalText "laneId" command.laneId)

def ChannelSession.json (session : ChannelSession) : Json :=
  .obj [("id", .str session.id), ("workspaceId", .str session.workspaceId),
    ("channelId", .str session.channelId)]

def ScheduleTrigger.json : ScheduleTrigger → Json
  | .explicit label => .obj [("kind", .str "explicit"), ("label", .str label)]
  | .unresolvedThreadSla threadId deadlineAt =>
    .obj [("kind", .str "unresolved_thread_sla"), ("threadId", .str threadId),
      ("deadlineAt", .str deadlineAt)]
  | .waitingNodeDeadline nodeId deadlineAt =>
    .obj [("kind", .str "waiting_node_deadline"), ("nodeId", .str nodeId),
      ("deadlineAt", .str deadlineAt)]
  | .connectorEvent connector eventType registrationId =>
    .obj [("kind", .str "connector_event"), ("connector", .str connector),
      ("eventType", .str eventType), ("registrationId", .str registrationId)]
  | .monitor monitorId label =>
    .obj [("kind", .str "monitor"), ("monitorId", .str monitorId), ("label", .str label)]

theorem ScheduleTrigger.json_inj {first second : ScheduleTrigger}
    (same : Json.Same first.json second.json) : first = second := by
  have texts : ∀ {key text : String} {fields others : List (String × Json)},
      first.json = .obj fields → second.json = .obj others → (key, .str text) ∈ fields →
        (key, .str text) ∈ others := by
    intro key text fields others isFirst isSecond member
    rw [isFirst, isSecond] at same
    obtain ⟨other, otherMember, isOther⟩ := Json.field_of_same same member
    rw [← Json.text_of_same isOther]
    exact otherMember
  cases first with
  | explicit label =>
    cases second with
    | explicit otherLabel =>
      have sameLabel := texts rfl rfl (List.mem_cons_of_mem _ List.mem_cons_self)
      simp at sameLabel
      rw [sameLabel]
    | _ => simpa using texts rfl rfl List.mem_cons_self
  | unresolvedThreadSla threadId deadlineAt =>
    cases second with
    | unresolvedThreadSla otherId otherDeadline =>
      have sameId := texts rfl rfl (List.mem_cons_of_mem _ List.mem_cons_self)
      have sameDeadline := texts rfl rfl
        (List.mem_cons_of_mem _ (List.mem_cons_of_mem _ List.mem_cons_self))
      simp at sameId sameDeadline
      rw [sameId, sameDeadline]
    | _ => simpa using texts rfl rfl List.mem_cons_self
  | waitingNodeDeadline nodeId deadlineAt =>
    cases second with
    | waitingNodeDeadline otherId otherDeadline =>
      have sameId := texts rfl rfl (List.mem_cons_of_mem _ List.mem_cons_self)
      have sameDeadline := texts rfl rfl
        (List.mem_cons_of_mem _ (List.mem_cons_of_mem _ List.mem_cons_self))
      simp at sameId sameDeadline
      rw [sameId, sameDeadline]
    | _ => simpa using texts rfl rfl List.mem_cons_self
  | connectorEvent connector eventType registrationId =>
    cases second with
    | connectorEvent otherConnector otherType otherId =>
      have sameConnector := texts rfl rfl (List.mem_cons_of_mem _ List.mem_cons_self)
      have sameType := texts rfl rfl
        (List.mem_cons_of_mem _ (List.mem_cons_of_mem _ List.mem_cons_self))
      have sameId := texts rfl rfl (List.mem_cons_of_mem _
        (List.mem_cons_of_mem _ (List.mem_cons_of_mem _ List.mem_cons_self)))
      simp at sameConnector sameType sameId
      rw [sameConnector, sameType, sameId]
    | _ => simpa using texts rfl rfl List.mem_cons_self
  | monitor monitorId label =>
    cases second with
    | monitor otherId otherLabel =>
      have sameId := texts rfl rfl (List.mem_cons_of_mem _ List.mem_cons_self)
      have sameLabel := texts rfl rfl
        (List.mem_cons_of_mem _ (List.mem_cons_of_mem _ List.mem_cons_self))
      simp at sameId sameLabel
      rw [sameId, sameLabel]
    | _ => simpa using texts rfl rfl List.mem_cons_self

/-- `stableJson(left) === stableJson(right)`. -/
def sameStableJson (left right : Json) : Bool :=
  decide (left.stableJson = right.stableJson)

def scopedKey (scope : ChannelScope) (kind id : String) : String :=
  (Json.arr [.str scope.workspaceId, .str scope.channelId, .str kind, .str id]).stableJson

/-- Without the closing bracket. -/
def scopedPrefix (scope : ChannelScope) (kind : String) : String :=
  String.ofList
    (Json.arr [.str scope.workspaceId, .str scope.channelId, .str kind]).stableJson.toList.dropLast

def startsWith (text start : String) : Bool :=
  start.toList.isPrefixOf text.toList

theorem scopedKey_inj {first second : ChannelScope} {firstKind secondKind firstId secondId : String} :
    scopedKey first firstKind firstId = scopedKey second secondKind secondId ↔
      first = second ∧ firstKind = secondKind ∧ firstId = secondId := by
  unfold scopedKey
  rw [Json.stableJson_eq_iff]
  constructor
  · intro same
    simp only [Json.Same, Json.sortKeys, Json.sortItems, Json.arr.injEq, List.cons.injEq,
      Json.str.injEq, and_true] at same
    rcases same with ⟨sameWorkspace, sameChannel, sameKind, sameId⟩
    cases first
    cases second
    cases sameWorkspace
    cases sameChannel
    exact ⟨rfl, sameKind, sameId⟩
  · rintro ⟨sameScope, sameKind, sameId⟩
    rw [sameScope, sameKind, sameId]
    rfl

theorem scopedKey_toList (scope : ChannelScope) (kind id : String) :
    (scopedKey scope kind id).toList =
      '[' :: (Json.quote scope.workspaceId ++ ',' :: (Json.quote scope.channelId ++
        ',' :: (Json.quote kind ++ ',' :: (Json.quote id ++ [']'])))) := by
  unfold scopedKey Json.stableJson
  rw [String.toList_ofList]
  simp only [Json.sortKeys, Json.sortItems, Json.chars, Json.itemChars, Json.commaSeparated,
    List.append_assoc, List.cons_append]

theorem scopedPrefix_toList (scope : ChannelScope) (kind : String) :
    (scopedPrefix scope kind).toList =
      '[' :: (Json.quote scope.workspaceId ++ ',' :: (Json.quote scope.channelId ++
        ',' :: Json.quote kind)) := by
  unfold scopedPrefix Json.stableJson
  rw [String.toList_ofList, String.toList_ofList]
  simp only [Json.sortKeys, Json.sortItems, Json.chars, Json.itemChars, Json.commaSeparated]
  rw [← List.cons_append, List.dropLast_concat]

theorem startsWith_scopedPrefix {scope other : ChannelScope} {kind otherKind id : String} :
    startsWith (scopedKey other otherKind id) (scopedPrefix scope kind) = true ↔
      scope = other ∧ kind = otherKind := by
  unfold startsWith
  rw [List.isPrefixOf_iff_prefix, scopedKey_toList, scopedPrefix_toList]
  constructor
  · rintro ⟨rest, same⟩
    simp only [List.cons_append, List.append_assoc, List.cons.injEq, true_and] at same
    rcases Json.quote_append same with ⟨sameWorkspace, same⟩
    rcases Json.quote_append (List.cons.inj same).2 with ⟨sameChannel, same⟩
    rcases Json.quote_append (List.cons.inj same).2 with ⟨sameKind, _⟩
    cases scope
    cases other
    cases sameWorkspace
    cases sameChannel
    exact ⟨rfl, sameKind⟩
  · rintro ⟨sameScope, sameKind⟩
    rw [sameScope, sameKind]
    refine ⟨',' :: (Json.quote id ++ [']']), ?_⟩
    simp only [List.cons_append, List.append_assoc]

end AnnaAgent.EventStore
