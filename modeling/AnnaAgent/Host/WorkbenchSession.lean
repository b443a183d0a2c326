/-
The workbench session store: the identity of sessions and runs, and the
sidecar file that keeps it (`harness-service/src/workbench-session.ts`).

The sidecar is the JSON value that the file holds.  `parsed.sessions as
WorkbenchSessionRecord[]` reads the fields of the record from the object, and
the numbers of a goal are natural numbers.
-/

import AnnaAgent.Foundation.FirstMatch
import AnnaAgent.Foundation.WriteQueue
import AnnaAgent.Host.WorkbenchGoal

namespace AnnaAgent.Host

open Foundation

structure WorkbenchSessionRecord where
  sessionId : String
  workspaceId : String
  actorUserId : String
  channelId : String
  projectId : Option String
  surface : String
  createdAt : String
  updatedAt : String
  goal : Option WorkbenchGoalRecord
  deriving DecidableEq

inductive ConversationSource where
  | conversation
  | runIdFallback
  deriving DecidableEq

def ConversationSource.text : ConversationSource → String
  | .conversation => "conversation"
  | .runIdFallback => "run_id_fallback"

def conversationSources : List ConversationSource := [.conversation, .runIdFallback]

inductive AdmissionStatus where
  | pending
  | started
  | failed
  deriving DecidableEq

def AdmissionStatus.text : AdmissionStatus → String
  | .pending => "pending"
  | .started => "started"
  | .failed => "failed"

def admissionStatuses : List AdmissionStatus := [.pending, .started, .failed]

inductive RunTrigger where
  | user
  | goalContinuation
  deriving DecidableEq

def RunTrigger.text : RunTrigger → String
  | .user => "user"
  | .goalContinuation => "goal_continuation"

def runTriggers : List RunTrigger := [.user, .goalContinuation]

structure WorkbenchRunRecord where
  runId : String
  sessionId : String
  workspaceId : String
  actorUserId : String
  channelId : String
  projectId : Option String
  parentRunId : Option String
  surface : String
  prompt : String
  sourceEventId : String
  sourceEventDerived : Option Bool
  resourceRefs : List String
  skillId : Option String
  agentId : Option String
  modelProfileId : Option String
  requestedArtifact : Option String
  conversationId : String
  conversationSource : Option ConversationSource
  createdAt : String
  updatedAt : String
  admissionStatus : Option AdmissionStatus
  admissionError : Option String
  permissionMode : Option GoalPermissionMode
  goalId : Option String
  trigger : Option RunTrigger
  deriving DecidableEq

structure WorkbenchState where
  sessions : List WorkbenchSessionRecord
  runs : List WorkbenchRunRecord

def WorkbenchState.empty : WorkbenchState :=
  { sessions := []
    runs := [] }

inductive WorkbenchRunLookup where
  | created (run : WorkbenchRunRecord)
  | existing (run : WorkbenchRunRecord)
  | conflict
  deriving DecidableEq

structure WorkbenchMigrationRecords where
  sessions : List WorkbenchSessionRecord
  runs : List WorkbenchRunRecord

structure WorkbenchMigrationResult where
  sessionsAdded : Nat
  runsAdded : Nat
  deriving DecidableEq

inductive SessionStoreError where
  | sessionIdExists
  | sessionNotFound
  | sessionIdChanged
  | runNotFound
  | migrationSessionConflict
  | migrationRunSessionMissing
  | migrationRunConflict
  | migrationSourceConflict
  | invalidSidecar
  | invalidSidecarRecord
  /-- What a mutation callback or a failed write throws. -/
  | thrown (message : String)
  deriving DecidableEq

def sameRunIdentity (left right : WorkbenchRunRecord) : Bool :=
  decide (left.sessionId = right.sessionId)
    && decide (left.workspaceId = right.workspaceId)
    && decide (left.actorUserId = right.actorUserId)
    && decide (left.prompt = right.prompt)
    && decide (left.surface = right.surface)
    && decide (left.projectId = right.projectId)
    && decide (left.parentRunId = right.parentRunId)
    && decide (left.skillId = right.skillId)
    && decide (left.agentId = right.agentId)
    && decide (left.modelProfileId = right.modelProfileId)
    && decide (left.requestedArtifact = right.requestedArtifact)
    && decide (left.permissionMode.getD .readonly = right.permissionMode.getD .readonly)
    && decide (left.goalId = right.goalId)
    && decide (left.resourceRefs = right.resourceRefs)

def sameSessionRecord (left right : WorkbenchSessionRecord) : Bool :=
  decide (left.sessionId = right.sessionId)
    && decide (left.workspaceId = right.workspaceId)
    && decide (left.actorUserId = right.actorUserId)
    && decide (left.channelId = right.channelId)
    && decide (left.projectId = right.projectId)
    && decide (left.surface = right.surface)
    && decide (left.createdAt = right.createdAt)

def sameMigratedRun (left right : WorkbenchRunRecord) : Bool :=
  sameRunIdentity left right
    && decide (left.runId = right.runId)
    && decide (left.channelId = right.channelId)
    && decide (left.sourceEventId = right.sourceEventId)
    && decide (left.sourceEventDerived = right.sourceEventDerived)
    && decide (left.conversationId = right.conversationId)
    && decide (left.conversationSource = right.conversationSource)
    && decide (left.createdAt = right.createdAt)
    && decide (left.updatedAt = right.updatedAt)
    && decide (left.admissionStatus = right.admissionStatus)
    && decide (left.admissionError = right.admissionError)

def createSession (session : WorkbenchSessionRecord) (state : WorkbenchState) :
    Except SessionStoreError (WorkbenchSessionRecord × WorkbenchState) :=
  if state.sessions.any (fun item => item.sessionId = session.sessionId) then
    .error .sessionIdExists
  else .ok (session, { state with sessions := state.sessions ++ [session] })

def updateSession (sessionId : String)
    (mutation : WorkbenchSessionRecord → Except SessionStoreError WorkbenchSessionRecord)
    (state : WorkbenchState) : Except SessionStoreError (WorkbenchSessionRecord × WorkbenchState) :=
  match state.sessions.find? (fun item => item.sessionId = sessionId) with
  | none => .error .sessionNotFound
  | some current =>
    match mutation current with
    | .error error => .error error
    | .ok next =>
      if next.sessionId ≠ sessionId then .error .sessionIdChanged
      else
        .ok (next, { state with
          sessions := updateFirst (fun item => item.sessionId = sessionId) (fun _ => next)
            state.sessions })

/-- A run makes its session a recent one. -/
def touchSession (run : WorkbenchRunRecord) (sessions : List WorkbenchSessionRecord) :
    List WorkbenchSessionRecord :=
  updateFirst (fun item => item.sessionId = run.sessionId)
    (fun session =>
      if session.updatedAt < run.createdAt then { session with updatedAt := run.createdAt }
      else session) sessions

def WorkbenchState.runOfSource (state : WorkbenchState) (sessionId sourceEventId : String) :
    Option WorkbenchRunRecord :=
  state.runs.find? (fun item =>
    decide (item.sessionId = sessionId) && decide (item.sourceEventId = sourceEventId))

def WorkbenchState.getRun (state : WorkbenchState) (runId : String) : Option WorkbenchRunRecord :=
  state.runs.find? (fun item => item.runId = runId)

def WorkbenchState.getSession (state : WorkbenchState) (sessionId : String) :
    Option WorkbenchSessionRecord :=
  state.sessions.find? (fun item => item.sessionId = sessionId)

def createOrGetRun (run : WorkbenchRunRecord) (state : WorkbenchState) :
    WorkbenchRunLookup × WorkbenchState :=
  match (state.runOfSource run.sessionId run.sourceEventId).or (state.getRun run.runId) with
  | some existing =>
    if sameRunIdentity existing run then (.existing existing, state) else (.conflict, state)
  | none =>
    (.created run, { sessions := touchSession run state.sessions, runs := state.runs ++ [run] })

def markRunAdmission (runId : String) (status : AdmissionStatus) (error : Option String)
    (state : WorkbenchState) : Except SessionStoreError WorkbenchState :=
  match state.getRun runId with
  | none => .error .runNotFound
  | some _ =>
    .ok { state with
      runs := updateFirst (fun item => item.runId = runId)
        (fun current => { current with
          admissionStatus := some status
          admissionError := error.or current.admissionError }) state.runs }

def sourceKey (run : WorkbenchRunRecord) : String :=
  run.sessionId ++ String.singleton (Char.ofNat 0) ++ run.sourceEventId

structure SessionsDelta where
  sessionsById : OrderedMap String WorkbenchSessionRecord
  sessions : List WorkbenchSessionRecord

def SessionsDelta.add (delta : SessionsDelta) (session : WorkbenchSessionRecord) :
    Except SessionStoreError SessionsDelta :=
  match delta.sessionsById.get? session.sessionId with
  | some existing =>
    if sameSessionRecord existing session then .ok delta else .error .migrationSessionConflict
  | none =>
    .ok { sessionsById := delta.sessionsById.set session.sessionId session
          sessions := delta.sessions ++ [session] }

structure RunsDelta where
  runsById : OrderedMap String WorkbenchRunRecord
  runsBySource : OrderedMap String WorkbenchRunRecord
  runs : List WorkbenchRunRecord

def RunsDelta.add (sessionsById : OrderedMap String WorkbenchSessionRecord) (delta : RunsDelta)
    (run : WorkbenchRunRecord) : Except SessionStoreError RunsDelta :=
  if (sessionsById.get? run.sessionId).isNone then .error .migrationRunSessionMissing
  else
    match delta.runsById.get? run.runId with
    | some existing =>
      if sameMigratedRun existing run then .ok delta else .error .migrationRunConflict
    | none =>
      let added : RunsDelta :=
        { runsById := delta.runsById.set run.runId run
          runsBySource := delta.runsBySource.set (sourceKey run) run
          runs := delta.runs ++ [run] }
      match delta.runsBySource.get? (sourceKey run) with
      | some sameSource =>
        if sameSource.runId ≠ run.runId then .error .migrationSourceConflict else .ok added
      | none => .ok added

def SessionsDelta.initial (state : WorkbenchState) : SessionsDelta :=
  { sessionsById := OrderedMap.index WorkbenchSessionRecord.sessionId state.sessions
    sessions := [] }

def RunsDelta.initial (state : WorkbenchState) : RunsDelta :=
  { runsById := OrderedMap.index WorkbenchRunRecord.runId state.runs
    runsBySource := OrderedMap.index sourceKey state.runs
    runs := [] }

def sessionsDelta (state : WorkbenchState) (records : WorkbenchMigrationRecords) :
    Except SessionStoreError SessionsDelta :=
  records.sessions.foldlM SessionsDelta.add (.initial state)

def runsDelta (state : WorkbenchState) (sessionsById : OrderedMap String WorkbenchSessionRecord)
    (records : WorkbenchMigrationRecords) : Except SessionStoreError RunsDelta :=
  records.runs.foldlM (RunsDelta.add sessionsById) (.initial state)

def migrationDelta (state : WorkbenchState) (records : WorkbenchMigrationRecords) :
    Except SessionStoreError (List WorkbenchSessionRecord × List WorkbenchRunRecord) := do
  let sessions ← sessionsDelta state records
  let runs ← runsDelta state sessions.sessionsById records
  return (sessions.sessions, runs.runs)

def applyMigration (records : WorkbenchMigrationRecords) (state : WorkbenchState) :
    Except SessionStoreError (WorkbenchMigrationResult × WorkbenchState) := do
  let delta ← migrationDelta state records
  return (
    { sessionsAdded := delta.1.length
      runsAdded := delta.2.length },
    { sessions := state.sessions ++ delta.1
      runs := state.runs ++ delta.2 })

def previewMigration (records : WorkbenchMigrationRecords) (state : WorkbenchState) :
    Except SessionStoreError WorkbenchMigrationResult := do
  let delta ← migrationDelta state records
  return { sessionsAdded := delta.1.length
           runsAdded := delta.2.length }

/-! ### The sidecar -/

def WorkbenchGoalRecord.fields (goal : WorkbenchGoalRecord) : List (String × Option Json) :=
  [("goal_id", some (.str goal.goalId)), ("objective", some (.str goal.objective)),
    ("status", some (.str goal.status.text)), ("max_runs", some (.num (.ofNat goal.maxRuns))),
    ("run_ids", some (.strs goal.runIds)),
    ("permission_mode", some (.str goal.permissionMode.text)),
    ("resource_refs", some (.strs goal.resourceRefs)),
    ("source_event_id", goal.sourceEventId.map .str), ("last_reason", goal.lastReason.map .str),
    ("plan_progress", goal.planProgress.map (fun progress =>
      Json.ofFields [("completed", some (.num (.ofNat progress.completed))),
        ("total", some (.num (.ofNat progress.total)))])),
    ("created_at", some (.str goal.createdAt)), ("updated_at", some (.str goal.updatedAt))]

def WorkbenchGoalRecord.toJson (goal : WorkbenchGoalRecord) : Json := .ofFields goal.fields

def WorkbenchSessionRecord.fields (session : WorkbenchSessionRecord) :
    List (String × Option Json) :=
  [("schema_version", some (.num (.ofNat 2))), ("session_id", some (.str session.sessionId)),
    ("workspace_id", some (.str session.workspaceId)),
    ("actor_user_id", some (.str session.actorUserId)),
    ("channel_id", some (.str session.channelId)), ("project_id", session.projectId.map .str),
    ("surface", some (.str session.surface)), ("created_at", some (.str session.createdAt)),
    ("updated_at", some (.str session.updatedAt)),
    ("goal", session.goal.map WorkbenchGoalRecord.toJson)]

def WorkbenchSessionRecord.toJson (session : WorkbenchSessionRecord) : Json :=
  .ofFields session.fields

def WorkbenchRunRecord.fields (run : WorkbenchRunRecord) : List (String × Option Json) :=
  [("schema_version", some (.num (.ofNat 2))), ("run_id", some (.str run.runId)),
    ("session_id", some (.str run.sessionId)), ("workspace_id", some (.str run.workspaceId)),
    ("actor_user_id", some (.str run.actorUserId)), ("channel_id", some (.str run.channelId)),
    ("project_id", run.projectId.map .str), ("parent_run_id", run.parentRunId.map .str),
    ("surface", some (.str run.surface)), ("prompt", some (.str run.prompt)),
    ("source_event_id", some (.str run.sourceEventId)),
    ("source_event_derived", run.sourceEventDerived.map .bool),
    ("resource_refs", some (.strs run.resourceRefs)), ("skill_id", run.skillId.map .str),
    ("agent_id", run.agentId.map .str), ("model_profile_id", run.modelProfileId.map .str),
    ("requested_artifact", run.requestedArtifact.map .str),
    ("conversation_id", some (.str run.conversationId)),
    ("conversation_source", run.conversationSource.map (fun source => .str source.text)),
    ("created_at", some (.str run.createdAt)), ("updated_at", some (.str run.updatedAt)),
    ("admission_status", run.admissionStatus.map (fun status => .str status.text)),
    ("admission_error", run.admissionError.map .str),
    ("permission_mode", run.permissionMode.map (fun mode => .str mode.text)),
    ("goal_id", run.goalId.map .str),
    ("trigger", run.trigger.map (fun trigger => .str trigger.text))]

def WorkbenchRunRecord.toJson (run : WorkbenchRunRecord) : Json := .ofFields run.fields

def WorkbenchState.toJson (state : WorkbenchState) : Json :=
  .ofFields [("schema_version", some (.num (.ofNat 2))),
    ("sessions", some (.arr (state.sessions.map WorkbenchSessionRecord.toJson))),
    ("runs", some (.arr (state.runs.map WorkbenchRunRecord.toJson)))]

/-- `typeof value[key] === "string"` and the like. -/
def hasField (value : Json) (key : String) (check : Json → Bool) : Bool :=
  (value.get? key).any check

/-- `value[key] === undefined || …`. -/
def hasOptional (value : Json) (key : String) (check : Json → Bool) : Bool :=
  (value.get? key).all check

def isText (text : String) (value : Json) : Bool := decide (value = .str text)

def isGoalRecord (value : Json) : Bool :=
  value.isRecord
    && hasField value "goal_id" Json.isStr
    && hasField value "objective" Json.isStr
    && hasField value "status" Json.isStr
    && hasField value "max_runs" Json.isNum
    && hasField value "run_ids" (Json.all Json.isStr)
    && hasField value "permission_mode"
      (fun mode => isText "readonly" mode || isText "contained-write" mode)
    && hasField value "resource_refs" Json.isArr
    && hasField value "created_at" Json.isStr
    && hasField value "updated_at" Json.isStr

def isSchemaTwo (value : Json) : Bool := decide (value = .num (.ofNat 2))

def isAdmissionStatus (value : Json) : Bool :=
  isText "pending" value || isText "started" value || isText "failed" value

def isSessionRecord (value : Json) : Bool :=
  value.isRecord
    && hasField value "schema_version" isSchemaTwo
    && hasField value "session_id" Json.isStr
    && hasField value "workspace_id" Json.isStr
    && hasField value "actor_user_id" Json.isStr
    && hasField value "channel_id" Json.isStr
    && hasField value "surface" Json.isStr
    && hasField value "created_at" Json.isStr
    && hasField value "updated_at" Json.isStr
    && hasOptional value "admission_status" isAdmissionStatus
    && hasOptional value "admission_error" Json.isStr
    && hasOptional value "project_id" Json.isStr
    && hasOptional value "goal" isGoalRecord

def isRunRecord (value : Json) : Bool :=
  value.isRecord
    && hasField value "schema_version" isSchemaTwo
    && hasField value "run_id" Json.isStr
    && hasField value "session_id" Json.isStr
    && hasField value "workspace_id" Json.isStr
    && hasField value "actor_user_id" Json.isStr
    && hasField value "channel_id" Json.isStr
    && hasField value "surface" Json.isStr
    && hasField value "prompt" Json.isStr
    && hasField value "source_event_id" Json.isStr
    && hasOptional value "source_event_derived" Json.isBool
    && hasField value "resource_refs" (Json.all Json.isStr)
    && hasOptional value "skill_id" Json.isStr
    && hasOptional value "agent_id" Json.isStr
    && hasOptional value "model_profile_id" Json.isStr
    && hasField value "conversation_id" Json.isStr
    && hasOptional value "conversation_source"
      (fun source => isText "conversation" source || isText "run_id_fallback" source)
    && hasField value "created_at" Json.isStr
    && hasField value "updated_at" Json.isStr
    && hasOptional value "project_id" Json.isStr
    && hasOptional value "parent_run_id" Json.isStr
    && hasOptional value "requested_artifact" Json.isStr
    && hasOptional value "permission_mode"
      (fun mode => isText "readonly" mode || isText "contained-write" mode)
    && hasOptional value "goal_id" Json.isStr
    && hasOptional value "trigger"
      (fun trigger => isText "user" trigger || isText "goal_continuation" trigger)

def oneOf {α : Type} (values : List α) (text : α → String) (value : Json) : Option α :=
  value.str?.bind (fun read => values.find? (fun item => text item = read))

def PlanProgress.ofJson (value : Json) : Option PlanProgress := do
  let completed ← Json.required Json.nat? (value.get? "completed")
  let total ← Json.required Json.nat? (value.get? "total")
  return { completed, total }

def WorkbenchGoalRecord.ofJson (value : Json) : Option WorkbenchGoalRecord := do
  let goalId ← Json.required Json.str? (value.get? "goal_id")
  let objective ← Json.required Json.str? (value.get? "objective")
  let status ← Json.required (oneOf goalStatuses GoalStatus.text) (value.get? "status")
  let maxRuns ← Json.required Json.nat? (value.get? "max_runs")
  let runIds ← Json.required Json.strs? (value.get? "run_ids")
  let permissionMode ← Json.required (oneOf goalPermissionModes GoalPermissionMode.text)
    (value.get? "permission_mode")
  let resourceRefs ← Json.required Json.strs? (value.get? "resource_refs")
  let sourceEventId ← Json.optional Json.str? (value.get? "source_event_id")
  let lastReason ← Json.optional Json.str? (value.get? "last_reason")
  let planProgress ← Json.optional PlanProgress.ofJson (value.get? "plan_progress")
  let createdAt ← Json.required Json.str? (value.get? "created_at")
  let updatedAt ← Json.required Json.str? (value.get? "updated_at")
  return { goalId, objective, status, maxRuns, runIds, permissionMode, resourceRefs,
           sourceEventId, lastReason, planProgress, createdAt, updatedAt }

def WorkbenchSessionRecord.ofJson (value : Json) : Option WorkbenchSessionRecord := do
  let sessionId ← Json.required Json.str? (value.get? "session_id")
  let workspaceId ← Json.required Json.str? (value.get? "workspace_id")
  let actorUserId ← Json.required Json.str? (value.get? "actor_user_id")
  let channelId ← Json.required Json.str? (value.get? "channel_id")
  let projectId ← Json.optional Json.str? (value.get? "project_id")
  let surface ← Json.required Json.str? (value.get? "surface")
  let createdAt ← Json.required Json.str? (value.get? "created_at")
  let updatedAt ← Json.required Json.str? (value.get? "updated_at")
  let goal ← Json.optional WorkbenchGoalRecord.ofJson (value.get? "goal")
  return { sessionId, workspaceId, actorUserId, channelId, projectId, surface, createdAt,
           updatedAt, goal }

def WorkbenchRunRecord.ofJson (value : Json) : Option WorkbenchRunRecord := do
  let runId ← Json.required Json.str? (value.get? "run_id")
  let sessionId ← Json.required Json.str? (value.get? "session_id")
  let workspaceId ← Json.required Json.str? (value.get? "workspace_id")
  let actorUserId ← Json.required Json.str? (value.get? "actor_user_id")
  let channelId ← Json.required Json.str? (value.get? "channel_id")
  let projectId ← Json.optional Json.str? (value.get? "project_id")
  let parentRunId ← Json.optional Json.str? (value.get? "parent_run_id")
  let surface ← Json.required Json.str? (value.get? "surface")
  let prompt ← Json.required Json.str? (value.get? "prompt")
  let sourceEventId ← Json.required Json.str? (value.get? "source_event_id")
  let sourceEventDerived ← Json.optional Json.bool? (value.get? "source_event_derived")
  let resourceRefs ← Json.required Json.strs? (value.get? "resource_refs")
  let skillId ← Json.optional Json.str? (value.get? "skill_id")
  let agentId ← Json.optional Json.str? (value.get? "agent_id")
  let modelProfileId ← Json.optional Json.str? (value.get? "model_profile_id")
  let requestedArtifact ← Json.optional Json.str? (value.get? "requested_artifact")
  let conversationId ← Json.required Json.str? (value.get? "conversation_id")
  let conversationSource ← Json.optional (oneOf conversationSources ConversationSource.text)
    (value.get? "conversation_source")
  let createdAt ← Json.required Json.str? (value.get? "created_at")
  let updatedAt ← Json.required Json.str? (value.get? "updated_at")
  let admissionStatus ← Json.optional (oneOf admissionStatuses AdmissionStatus.text)
    (value.get? "admission_status")
  let admissionError ← Json.optional Json.str? (value.get? "admission_error")
  let permissionMode ← Json.optional (oneOf goalPermissionModes GoalPermissionMode.text)
    (value.get? "permission_mode")
  let goalId ← Json.optional Json.str? (value.get? "goal_id")
  let trigger ← Json.optional (oneOf runTriggers RunTrigger.text) (value.get? "trigger")
  return { runId, sessionId, workspaceId, actorUserId, channelId, projectId, parentRunId, surface,
           prompt, sourceEventId, sourceEventDerived, resourceRefs, skillId, agentId,
           modelProfileId, requestedArtifact, conversationId, conversationSource, createdAt,
           updatedAt, admissionStatus, admissionError, permissionMode, goalId, trigger }

def parseSidecar (parsed : Json) : Except SessionStoreError WorkbenchState :=
  if hasField parsed "schema_version" isSchemaTwo then
    match parsed.get? "sessions", parsed.get? "runs" with
    | some (.arr sessions), some (.arr runs) =>
      if sessions.all isSessionRecord && runs.all isRunRecord then
        match sessions.mapM WorkbenchSessionRecord.ofJson,
            runs.mapM WorkbenchRunRecord.ofJson with
        | some sessions, some runs => .ok { sessions, runs }
        | _, _ => .error .invalidSidecarRecord
      else .error .invalidSidecarRecord
    | _, _ => .error .invalidSidecar
  else .error .invalidSidecar

/-- The records of a file; a store without a path has no file, and a file that
does not exist has no records. -/
def loadSidecar (path : Option String) (content : Option Json) :
    Except SessionStoreError WorkbenchState :=
  if path.isNone then .ok .empty
  else
    match content with
    | none => .ok .empty
    | some parsed => parseSidecar parsed

def persistSidecar (path : Option String) (state : WorkbenchState) (content : Option Json) :
    Option Json :=
  if path.isNone then content else some state.toJson

inductive SessionOperation where
  | createSession (session : WorkbenchSessionRecord)
  | updateSession (sessionId : String)
      (mutation : WorkbenchSessionRecord → Except SessionStoreError WorkbenchSessionRecord)
  | createOrGetRun (run : WorkbenchRunRecord)
  | markRunAdmission (runId : String) (status : AdmissionStatus) (error : Option String)
  | applyMigration (records : WorkbenchMigrationRecords)

inductive SessionAnswer where
  | session (session : WorkbenchSessionRecord)
  | run (lookup : WorkbenchRunLookup)
  | marked
  | migrated (result : WorkbenchMigrationResult)
  deriving DecidableEq

def SessionOperation.mutation :
    SessionOperation → WorkbenchState → Except SessionStoreError (SessionAnswer × WorkbenchState)
  | .createSession session, state =>
    (Host.createSession session state).map (fun answer => (.session answer.1, answer.2))
  | .updateSession sessionId mutation, state =>
    (Host.updateSession sessionId mutation state).map (fun answer => (.session answer.1, answer.2))
  | .createOrGetRun run, state =>
    .ok (.run (Host.createOrGetRun run state).1, (Host.createOrGetRun run state).2)
  | .markRunAdmission runId status error, state =>
    (Host.markRunAdmission runId status error state).map (fun after => (.marked, after))
  | .applyMigration records, state =>
    (Host.applyMigration records state).map (fun answer => (.migrated answer.1, answer.2))

def sessionStore (path : Option String) :
    WriteQueue (Option Json) WorkbenchState SessionOperation SessionAnswer SessionStoreError :=
  { reads := loadSidecar path
    persist := persistSidecar path
    mutation := SessionOperation.mutation }

end AnnaAgent.Host
