/-
The product session store: the tasks that the host has admitted, and the
snapshot file that keeps them (`harness-service/src/product-session.ts`).

Two routes save tasks.  The task route saves what `validatedProductTask` has
returned; the workbench saves what it makes of a run record.  Both kinds are
validated when the file is loaded.
-/

import AnnaAgent.Host.ReviewApproval
import AnnaAgent.Host.WorkbenchSession

namespace AnnaAgent.Host

open Foundation

def productSurfaces : List String := ["chat", "create", "hiker", "reimbursement", "crew"]

inductive ProductPermissionMode where
  | readonly
  | ask
  | containedWrite
  | full
  deriving DecidableEq

def ProductPermissionMode.text : ProductPermissionMode → String
  | .readonly => "readonly"
  | .ask => "ask"
  | .containedWrite => "contained-write"
  | .full => "full"

def permissions : List ProductPermissionMode := [.readonly, .ask, .containedWrite, .full]

structure ProductTask where
  runId : String
  /-- `schema_version` is 2 where it is present. -/
  hasSchemaVersion : Bool
  workspaceId : String
  actorUserId : String
  surface : String
  prompt : String
  channelId : Option String
  conversationId : Option String
  sessionId : Option String
  projectId : Option String
  parentRunId : Option String
  resourceRefs : Option (List String)
  requestedArtifact : Option String
  systemPrompt : Option String
  context : Option (List (String × Json))
  workdirPath : Option String
  permissionMode : Option ProductPermissionMode
  modelProfileId : Option String
  sourceEventId : Option String

structure ProductSessionRecord where
  task : ProductTask
  createdAt : String
  updatedAt : String

def ProductTask.fields (task : ProductTask) : List (String × Option Json) :=
  [("run_id", some (.str task.runId)),
    ("schema_version", if task.hasSchemaVersion then some (.num (.ofNat 2)) else none),
    ("workspace_id", some (.str task.workspaceId)),
    ("actor_user_id", some (.str task.actorUserId)), ("surface", some (.str task.surface)),
    ("prompt", some (.str task.prompt)), ("channel_id", task.channelId.map .str),
    ("conversation_id", task.conversationId.map .str), ("session_id", task.sessionId.map .str),
    ("project_id", task.projectId.map .str), ("parent_run_id", task.parentRunId.map .str),
    ("resource_refs", task.resourceRefs.map .strs),
    ("requested_artifact", task.requestedArtifact.map .str),
    ("system_prompt", task.systemPrompt.map .str), ("context", task.context.map .obj),
    ("workdir_path", task.workdirPath.map .str),
    ("permission_mode", task.permissionMode.map (fun mode => .str mode.text)),
    ("model_profile_id", task.modelProfileId.map .str),
    ("source_event_id", task.sourceEventId.map .str)]

def ProductTask.toJson (task : ProductTask) : Json := .ofFields task.fields

def ProductSessionRecord.toJson (record : ProductSessionRecord) : Json :=
  .ofFields [("task", some record.task.toJson), ("created_at", some (.str record.createdAt)),
    ("updated_at", some (.str record.updatedAt))]

def utf16Length (text : String) : Nat :=
  (text.toList.map (fun c => if 0xFFFF < c.toNat then 2 else 1)).sum

def isControl (c : Char) : Bool :=
  decide (c.toNat < 0x20) && decide (c ≠ '\n') && decide (c ≠ '\r') && decide (c ≠ '\t')

def optionalString (value : Option Json) : Except String (Option String) :=
  match value with
  | some (.str text) =>
    if isBlank text then .ok none
    else if 262144 < utf16Length text then .error "ProductTask string exceeds the size limit"
    else if text.toList.any isControl then
      .error "ProductTask string contains a control character"
    else .ok (some text)
  | _ => .ok none

def requiredString (value : Option Json) (name : String) : Except String String :=
  (optionalString value).bind (fun result =>
    match result with
    | none => .error (name ++ " must be a non-empty string")
    | some text => .ok text)

def permission (value : Json) : Except String ProductPermissionMode :=
  match oneOf permissions ProductPermissionMode.text value with
  | some mode => .ok mode
  | none => .error "permission_mode is not allowed"

def resourceRef? : Json → Option String
  | .str text => if isBlank text then none else some text
  | _ => none

def resourceRefs (value : Json) : Except String (List String) :=
  match value with
  | .arr items =>
    match items.mapM resourceRef? with
    | some refs =>
      if 100 < refs.length then .error "resource_refs exceeds the size limit" else .ok refs
    | none => .error "resource_refs must be an array of non-empty strings"
  | _ => .error "resource_refs must be an array of non-empty strings"

/-- `/(?:api[_-]?key|access[_-]?token|authorization|credential|password|secret)/i`. -/
def credentialWords : List String :=
  ["apikey", "api_key", "api-key", "accesstoken", "access_token", "access-token", "authorization",
    "credential", "password", "secret"]

def asciiLower (c : Char) : Char :=
  if 65 ≤ c.toNat ∧ c.toNat ≤ 90 then Char.ofNat (c.toNat + 32) else c

def isSensitiveKey (key : String) : Bool :=
  credentialWords.any (fun word => decide (word.toList <:+: key.toList.map asciiLower))

mutual

def hasSensitiveKey : Json → Bool
  | .arr items => itemsHaveSensitiveKey items
  | .obj fields => fieldsHaveSensitiveKey fields
  | _ => false

def itemsHaveSensitiveKey : List Json → Bool
  | [] => false
  | item :: rest => hasSensitiveKey item || itemsHaveSensitiveKey rest

def fieldsHaveSensitiveKey : List (String × Json) → Bool
  | [] => false
  | field :: rest => fieldHasSensitiveKey field || fieldsHaveSensitiveKey rest

def fieldHasSensitiveKey : String × Json → Bool
  | (key, value) => isSensitiveKey key || hasSensitiveKey value

end

def contextRecord (value : Json) : Except String (List (String × Json)) :=
  match value with
  | .obj fields =>
    if hasSensitiveKey value then .error "context contains a credential-like field"
    else .ok fields
  | _ => .error "context must be a JSON object"

def taskKeys : List String :=
  ["run_id", "schema_version", "workspace_id", "actor_user_id", "surface", "prompt", "channel_id",
    "conversation_id", "session_id", "project_id", "parent_run_id", "resource_refs",
    "requested_artifact", "system_prompt", "context", "workdir_path", "permission_mode",
    "model_profile_id", "source_event_id"]

def onlyTaskKeys (input : Json) : Except String Unit :=
  match input with
  | .obj fields =>
    match fields.find? (fun field => decide (field.1 ∉ taskKeys)) with
    | some field => .error ("ProductTask field is not allowed: " ++ field.1)
    | none => .ok ()
  | _ => .error "ProductTask must be a JSON object"

def schemaVersion (value : Option Json) : Except String Bool :=
  match value with
  | none => .ok false
  | some version =>
    if isSchemaTwo version then .ok true else .error "schema_version must be 2"

def admittedSurface (surface : String) : Except String Unit :=
  if surface ∈ productSurfaces then .ok ()
  else .error "surface is not an admitted Product surface"

def whenPresent {α : Type} (read : Json → Except String α) (value : Option Json) :
    Except String (Option α) :=
  match value with
  | none => .ok none
  | some value => (read value).map some

def validatedProductTask (input : Json) : Except String ProductTask := do
  onlyTaskKeys input
  let runId ← requiredString (input.get? "run_id") "run_id"
  let hasSchemaVersion ← schemaVersion (input.get? "schema_version")
  let workspaceId ← requiredString (input.get? "workspace_id") "workspace_id"
  let actorUserId ← requiredString (input.get? "actor_user_id") "actor_user_id"
  let surface ← requiredString (input.get? "surface") "surface"
  admittedSurface surface
  let prompt ← requiredString (input.get? "prompt") "prompt"
  let channelId ← optionalString (input.get? "channel_id")
  let conversationId ← optionalString (input.get? "conversation_id")
  let sessionId ← optionalString (input.get? "session_id")
  let projectId ← optionalString (input.get? "project_id")
  let parentRunId ← optionalString (input.get? "parent_run_id")
  let resourceRefs ← whenPresent resourceRefs (input.get? "resource_refs")
  let requestedArtifact ← optionalString (input.get? "requested_artifact")
  let systemPrompt ← optionalString (input.get? "system_prompt")
  let context ← whenPresent contextRecord (input.get? "context")
  let workdirPath ← optionalString (input.get? "workdir_path")
  let permissionMode ← whenPresent permission (input.get? "permission_mode")
  let modelProfileId ← optionalString (input.get? "model_profile_id")
  let sourceEventId ← optionalString (input.get? "source_event_id")
  return { runId, hasSchemaVersion, workspaceId, actorUserId, surface, prompt, channelId,
           conversationId, sessionId, projectId, parentRunId, resourceRefs, requestedArtifact,
           systemPrompt, context, workdirPath, permissionMode, modelProfileId, sourceEventId }

/-! ### Loading -/

def strictTimestamp (value : Option Json) (name : String) : Except String String :=
  match value with
  | some (.str text) =>
    if isBlank text then .error (name ++ " must be a non-empty string") else .ok text
  | _ => .error (name ++ " must be a non-empty string")

def parseRecord (name : String) (item : Json) : Except String ProductSessionRecord := do
  match item.get? "task" with
  | some (.obj fields) =>
    match validatedProductTask (.obj fields) with
    | .error message => .error (name ++ " task is invalid: " ++ message)
    | .ok task => do
        let createdAt ← strictTimestamp (item.get? "created_at") (name ++ ".created_at")
        let updatedAt ← strictTimestamp (item.get? "updated_at") (name ++ ".updated_at")
        return { task, createdAt, updatedAt }
  | _ => .error (name ++ " is invalid")

def parseRecords (source : String) :
    Nat → List String → List Json → Except String (List ProductSessionRecord)
  | _, _, [] => .ok []
  | index, seen, item :: rest => do
      let record ← parseRecord (source ++ " record " ++ toString index) item
      if record.task.runId ∈ seen then
        .error (source ++ " contains duplicate run_id " ++ record.task.runId)
      else
        let later ← parseRecords source (index + 1) (record.task.runId :: seen) rest
        return record :: later

def legacySource : String := "legacy ProductSessionStore source"

def snapshotSource : String := "ProductSessionStore task snapshot"

def readProductSessionSource (content : Option Json) :
    Except String (List ProductSessionRecord) :=
  match content with
  | none => .ok []
  | some (.arr items) => parseRecords legacySource 0 [] items
  | some _ => .error (legacySource ++ " must be an array")

def readProductSessionSnapshot (content : Option Json) :
    Except String (List ProductSessionRecord) :=
  match content with
  | none => .ok []
  | some value =>
    match hasField value "schema_version" isSchemaTwo, value.get? "records" with
    | true, some (.arr items) => parseRecords snapshotSource 0 [] items
    | _, _ => .error "invalid ProductSessionStore task snapshot"

abbrev ProductRecords : Type := OrderedMap String ProductSessionRecord

def addSnapshotRecord (candidate : ProductRecords) (record : ProductSessionRecord) :
    Except String ProductRecords :=
  match candidate.get? record.task.runId with
  | some existing =>
    if existing.toJson.stableJson ≠ record.toJson.stableJson then
      .error ("conflicting ProductTask snapshot for " ++ record.task.runId)
    else .ok (candidate.set record.task.runId record)
  | none => .ok (candidate.set record.task.runId record)

/-- The two files of a store with a path, each the JSON value it holds. -/
structure ProductFiles where
  source : Option Json
  snapshot : Option Json

def loadRecords (files : ProductFiles) : Except String ProductRecords := do
  let source ← readProductSessionSource files.source
  let sidecar ← readProductSessionSnapshot files.snapshot
  sidecar.foldlM addSnapshotRecord (OrderedMap.index (fun record => record.task.runId) source)

structure ProductSessionStore where
  files : ProductFiles
  records : ProductRecords

def openStore (files : ProductFiles) : Except String ProductSessionStore :=
  (loadRecords files).map (fun records => { files, records })

def snapshotOf (records : ProductRecords) : Json :=
  .ofFields [("schema_version", some (.num (.ofNat 2))),
    ("records", some (.arr (records.values.map ProductSessionRecord.toJson)))]

def recordOf (task : ProductTask) (now : String) : ProductSessionRecord :=
  { task
    createdAt := now
    updatedAt := now }

def ProductSessionStore.save (store : ProductSessionStore) (task : ProductTask) (now : String) :
    Except String ProductSessionStore :=
  match store.records.get? task.runId with
  | some existing =>
    if existing.task.toJson.stableJson ≠ task.toJson.stableJson then
      .error "run_id is already bound to a different ProductTask"
    else .ok store
  | none =>
    .ok { files := { store.files with
            snapshot := some (snapshotOf (store.records.set task.runId (recordOf task now))) }
          records := store.records.set task.runId (recordOf task now) }

def productTaskForWorkbenchRun (run : WorkbenchRunRecord) : ProductTask :=
  { runId := run.runId
    hasSchemaVersion := true
    workspaceId := run.workspaceId
    actorUserId := run.actorUserId
    surface := run.surface
    prompt := run.prompt
    channelId := some run.channelId
    conversationId := some run.conversationId
    sessionId := some run.sessionId
    projectId := run.projectId
    parentRunId := run.parentRunId
    resourceRefs := some run.resourceRefs
    requestedArtifact := run.requestedArtifact
    systemPrompt := none
    context :=
      if run.skillId.isNone ∧ run.agentId.isNone then none
      else
        some (((run.skillId.map (fun id => ("skill_id", Json.str id))).toList) ++
          (run.agentId.map (fun id => ("agent_id", Json.str id))).toList)
    workdirPath := none
    permissionMode :=
      if run.permissionMode = some .containedWrite then some .containedWrite else none
    modelProfileId := run.modelProfileId
    sourceEventId := some run.sourceEventId }

structure HistoryMessage where
  fromUser : Bool
  content : String

def HistoryMessage.toJson (message : HistoryMessage) : Json :=
  .obj [("role", .str (if message.fromUser then "user" else "assistant")),
    ("content", .str message.content)]

/-- The prior runs of the session, each with the texts of its assistant messages. -/
def conversationHistory (prior : List (WorkbenchRunRecord × List String)) : List HistoryMessage :=
  prior.flatMap (fun run =>
    { fromUser := true, content := run.1.prompt } ::
      run.2.map (fun content => { fromUser := false, content }))

def runIndex (goal : WorkbenchGoalRecord) (runId : String) : Nat :=
  if runId ∈ goal.runIds then goal.runIds.idxOf runId + 1 else goal.runIds.length + 1

def goalContext (goal : WorkbenchGoalRecord) (runId : String) : Json :=
  .obj [("goal_id", .str goal.goalId), ("objective", .str goal.objective),
    ("run_index", .num (.ofNat (runIndex goal runId))), ("max_runs", .num (.ofNat goal.maxRuns))]

/-- The context of a workbench run: its skill and agent, the history of its
session, and the goal of the session when the run belongs to it. -/
def workbenchContext (run : WorkbenchRunRecord) (prior : List (WorkbenchRunRecord × List String))
    (goal : Option WorkbenchGoalRecord) : List (String × Json) :=
  (productTaskForWorkbenchRun run).context.getD [] ++
    (if (conversationHistory prior).isEmpty then []
      else
        [("conversation_history",
          Json.arr ((conversationHistory prior).map HistoryMessage.toJson))]) ++
    ((goal.filter (fun goal => some goal.goalId = run.goalId)).map
      (fun goal => ("goal", goalContext goal run.runId))).toList

/-- What a workbench run is saved as, with the folder that its resource is
bound to. -/
def workbenchTaskForRun (run : WorkbenchRunRecord)
    (prior : List (WorkbenchRunRecord × List String)) (goal : Option WorkbenchGoalRecord)
    (workdirPath : Option String) : ProductTask :=
  { productTaskForWorkbenchRun run with
    context :=
      if (workbenchContext run prior goal).isEmpty then (productTaskForWorkbenchRun run).context
      else some (workbenchContext run prior goal)
    workdirPath }

end AnnaAgent.Host
