/-
The projection of execution events into crew projects
(`crew/app/execution_projection.py`).

An event first changes its task, and a change is then announced: an audit
entry, a channel row and in most cases a notification.  Whatever raises leaves
the project as it was, because the store rolls the transaction back.
-/

import AnnaAgent.Crew.Readiness
import AnnaAgent.Execution.Schema

namespace AnnaAgent.Crew

open Foundation
open Execution (ExecutionId ExecutionSnapshot JsonObject OutboxRow dictGet)

inductive ChannelAuthorKind where
  | anna
  | member
  | worker
  deriving DecidableEq

inductive ChannelMessageKind where
  | event
  | artifact
  | review
  | say
  | command
  deriving DecidableEq

def ChannelMessageKind.text : ChannelMessageKind → String
  | event => "event"
  | artifact => "artifact"
  | review => "review"
  | say => "say"
  | command => "command"

inductive NotificationKind where
  | assigned
  | mention
  | reviewDue
  | rejected
  | blocked
  | approval
  | unlocked
  | grown
  deriving DecidableEq

def NotificationKind.text : NotificationKind → String
  | assigned => "assigned"
  | mention => "mention"
  | reviewDue => "review_due"
  | rejected => "rejected"
  | blocked => "blocked"
  | approval => "approval"
  | unlocked => "unlocked"
  | grown => "grown"

structure ChannelMessage where
  id : String
  projectId : ProjectId
  workspaceId : String
  seq : Nat
  authorKind : ChannelAuthorKind
  authorMemberId : Option MemberId
  workerProfileRef : Option String
  causedByExecutionId : Option ExecutionId
  kind : ChannelMessageKind
  body : String
  taskId : Option TaskId
  runRef : Option String
  mentions : List MemberId
  auditRef : String
  payload : Option JsonObject
  createdAt : String

structure Notification where
  id : String
  workspaceId : String
  toMemberId : MemberId
  kind : NotificationKind
  title : String
  deepLink : String
  projectId : Option ProjectId
  taskId : Option TaskId
  readAt : Option String
  idempotencyKey : String
  createdAt : String

structure ProjectionEffects where
  changed : Bool
  channelMessages : List ChannelMessage
  notifications : List Notification

/-- What the projection takes from Python and from its clock: `str(value)`,
`text.strip()`, the ISO text of an event's time and `_now()`. -/
structure ProjectionHost where
  str : Execution.Json → String
  strip : String → String
  iso : Execution.Time → String
  now : String

inductive ProjectionError where
  | taskNotFound (taskId : TaskId) (projectId : ProjectId)
  | lifecycle (error : LifecycleError)
  | cannotProject (taskId : TaskId) (status : TaskStatus)
  | noArtifact
  | workerProvenance (field : String)

inductive EventKind where
  | started
  | claimed
  | artifact
  | blocked
  | question
  | recoveryBlocked
  | retryScheduled
  | failed
  | deadLettered
  | cancelled
  deriving DecidableEq

def EventKind.types : EventKind → List String
  | started => ["execution.started"]
  | claimed => ["execution.claimed"]
  | artifact => ["artifact_produced", "crew.artifact_produced", "crew.task.artifact_produced",
      "execution.artifact_produced"]
  | blocked => ["agent_blocked", "crew.agent_blocked", "crew.task.agent_blocked",
      "execution.agent_blocked"]
  | question => ["crew.worker.question"]
  | recoveryBlocked => ["execution.recovery_blocked"]
  | retryScheduled => ["execution.retry_scheduled"]
  | failed => ["execution.failed"]
  | deadLettered => ["execution.dead_lettered"]
  | cancelled => ["execution.cancelled"]

def eventKinds : List EventKind :=
  [.started, .claimed, .artifact, .blocked, .question, .recoveryBlocked, .retryScheduled,
    .failed, .deadLettered, .cancelled]

def eventKind (type : String) : Option EventKind :=
  eventKinds.find? (fun kind => type ∈ kind.types)

def isTrue : Execution.Json → Bool
  | .null => false
  | .bool value => value
  | .num value => decide (value ≠ 0)
  | .str value => decide (value ≠ "")
  | .arr items => !items.isEmpty
  | .obj fields => !fields.isEmpty

def payloadGet (payload : JsonObject) (name : String) : Execution.Json :=
  (dictGet payload name).getD .null

def orElse (first second : Execution.Json) : Execution.Json :=
  if isTrue first then first else second

/-- The last alternative of a chain of `or`, which is a text. -/
def orText' (host : ProjectionHost) (value : Execution.Json) (otherwise : String) : String :=
  if isTrue value then host.str value else otherwise

structure TaskState where
  status : TaskStatus
  artifact : Option String
  versions : Nat
  blocker : Option String
  runRef : Option String
  runStartedAt : Option String
  deriving DecidableEq

def taskState (task : CrewTask) : TaskState :=
  { status := task.status
    artifact := task.artifact
    versions := task.artifactVersions.length
    blocker := task.blocker
    runRef := task.runRef
    runStartedAt := task.runStartedAt }

/-- The statuses in which a task has left execution behind. -/
def advanced : List TaskStatus := [.submitted, .inReview, .done]

namespace CrewProject

variable (project : CrewProject)

def changedFrom (task : CrewTask) : Bool :=
  decide ((project.findTask task.id).map taskState ≠ some (taskState task))

def setRunRef (task : CrewTask) (event : OutboxRow) : CrewProject :=
  project.setTask task.id (fun task => { task with runRef := some event.executionId })

/-- `lifecycle.start_task` of a task that is assigned or in rework; a running
task goes on, and any other cannot be projected. -/
def startProjected (task : CrewTask) : Except ProjectionError CrewProject :=
  if task.status ∈ [TaskStatus.assigned, .rework] then
    (project.startTask task.id).mapError .lifecycle
  else if task.status ≠ .running then .error (.cannotProject task.id task.status)
  else .ok project

/-- The claim of the run, with the time the work began if it has none yet. -/
def markRunning (host : ProjectionHost) (task : CrewTask) (event : OutboxRow) : CrewProject :=
  (project.setRunRef task event).setTask task.id (fun task =>
    { task with runStartedAt := task.runStartedAt.or (some (host.iso event.createdAt)) })

def projectStarted (task : CrewTask) (event : OutboxRow) : Bool × CrewProject :=
  let after := project.setRunRef task event
  (after.changedFrom task, after)

def projectClaimed (host : ProjectionHost) (task : CrewTask) (event : OutboxRow) :
    Except ProjectionError (Bool × CrewProject) :=
  if task.status ∈ advanced then .ok (false, project)
  else do
    let running ← project.startProjected task
    let after := running.markRunning host task event
    return (after.changedFrom task, after)

def artifactText (host : ProjectionHost) (event : OutboxRow) : Option String :=
  match orElse (orElse (payloadGet event.payload "artifact") (payloadGet event.payload "content"))
      (payloadGet event.payload "summary") with
  | .str artifact => if host.strip artifact = "" then none else some artifact
  | _ => none

def projectArtifact (host : ProjectionHost) (task : CrewTask) (event : OutboxRow) :
    Except ProjectionError (Bool × CrewProject) :=
  match artifactText host event with
  | none => .error .noArtifact
  | some artifact => do
      let running ← project.startProjected task
      let submitted ← ((running.setRunRef task event).submitTask task.id artifact
        host.now).mapError .lifecycle
      let after := submitted.setTask task.id (fun task => { task with runStartedAt := none })
      return (after.changedFrom task, after)

def block (task : CrewTask) (event : OutboxRow) (reason : String) : Bool × CrewProject :=
  let after := project.setTask task.id (fun task =>
    { task with
      status := .blocked
      blocker := some reason
      runRef := some event.executionId
      runStartedAt := none })
  (after.changedFrom task, after)

def projectBlocked (host : ProjectionHost) (task : CrewTask) (event : OutboxRow) :
    Bool × CrewProject :=
  if task.status ∈ advanced then (false, project)
  else project.block task event (orText' host
    (orElse (payloadGet event.payload "reason") (payloadGet event.payload "message"))
    "Agent execution blocked")

def projectRecoveryBlocked (host : ProjectionHost) (task : CrewTask) (event : OutboxRow) :
    Bool × CrewProject :=
  if task.status ∈ advanced then (false, project)
  else project.block task event
    (orText' host (payloadGet event.payload "reason") "manual recovery required")

def projectRetryScheduled (task : CrewTask) (event : OutboxRow) : Bool × CrewProject :=
  if task.status ∈ advanced then (false, project) else (true, project.setRunRef task event)

def projectQuestion (host : ProjectionHost) (task : CrewTask) (event : OutboxRow) :
    Except ProjectionError (Bool × CrewProject) :=
  if task.status ∈ advanced then .ok (false, project)
  else do
    let running ← project.startProjected task
    return (true, running.markRunning host task event)

def blockIfOpen (task : CrewTask) (event : OutboxRow) (reason : String) : Bool × CrewProject :=
  if task.status ∈ advanced then (false, project)
  else if task.status = .blocked then (false, project)
  else if task.status ∉ [TaskStatus.assigned, .running, .rework] then (false, project)
  else project.block task event reason

/-- `event.payload.get("error_code") or snapshot.last_error_code`. -/
def errorCode (event : OutboxRow) (snapshot : ExecutionSnapshot) : Execution.Json :=
  orElse (payloadGet event.payload "error_code") (.ofOptionStr snapshot.lastErrorCode)

def projectTerminalFailed (host : ProjectionHost) (task : CrewTask) (event : OutboxRow)
    (snapshot : ExecutionSnapshot) : Bool × CrewProject :=
  project.blockIfOpen task event (orText' host
    (orElse (payloadGet event.payload "message") (errorCode event snapshot)) "Execution failed")

def projectTerminalCancelled (host : ProjectionHost) (task : CrewTask) (event : OutboxRow) :
    Bool × CrewProject :=
  let reason := payloadGet event.payload "reason"
  project.blockIfOpen task event
    (if isTrue reason then "执行已取消: " ++ host.str reason else "执行已取消")

/-- What an event of a kind makes of the project, and whether that is announced. -/
def projectTask (host : ProjectionHost) (kind : EventKind) (task : CrewTask) (event : OutboxRow)
    (snapshot : ExecutionSnapshot) : Except ProjectionError (Bool × CrewProject) :=
  match kind with
  | .started => .ok (project.projectStarted task event)
  | .claimed => project.projectClaimed host task event
  | .artifact => project.projectArtifact host task event
  | .blocked => .ok (project.projectBlocked host task event)
  | .question => project.projectQuestion host task event
  | .recoveryBlocked => .ok (project.projectRecoveryBlocked host task event)
  | .retryScheduled => .ok (project.projectRetryScheduled task event)
  | .failed | .deadLettered => .ok (project.projectTerminalFailed host task event snapshot)
  | .cancelled => .ok (project.projectTerminalCancelled host task event)

/-! ### Announcements -/

variable (host : ProjectionHost) (event : OutboxRow) (snapshot : ExecutionSnapshot)

/-- The audit entry, the channel row and the notification of a change. -/
structure Announcement where
  auditType : String
  auditPayload : JsonObject
  kind : ChannelMessageKind := .event
  body : String
  mentions : List (Option MemberId) := []
  authorKind : ChannelAuthorKind := .worker
  payload : Option JsonObject := none
  notification : Option (MemberId × NotificationKind × String) := none

def memberName (memberId : Option MemberId) : String :=
  match memberId with
  | some name => if name = "" then "Worker" else name
  | none => "Worker"

/-- `task.blocker or value or otherwise`. -/
def reasonOf (task : CrewTask) (value : Execution.Json) (otherwise : String) : Execution.Json :=
  orElse (.ofOptionStr task.blocker) (orElse value (.str otherwise))

def memoryHits : List Execution.Json :=
  let crew := match payloadGet snapshot.state "crew" with
    | .obj fields => fields
    | _ => []
  match payloadGet event.payload "memory_hits", payloadGet crew "memory_hits" with
  | .arr items, _ => items.map (fun item => .str (host.str item))
  | _, .arr items => items.map (fun item => .str (host.str item))
  | _, _ => []

def questionText : String :=
  match payloadGet event.payload "question" with
  | .str question => if host.strip question = "" then "需要人工补充信息。" else host.strip question
  | _ => "需要人工补充信息。"

def knownMemberIds : List MemberId :=
  project.ownerUserId ::
    (project.tasks.filterMap CrewTask.assigneeMemberId).filter (fun memberId => memberId ≠ "")

def questionTarget : MemberId :=
  match payloadGet event.payload "target" with
  | .str target =>
    if host.strip target ≠ "" ∧ host.strip target ∈ project.knownMemberIds then
      host.strip target
    else project.ownerUserId
  | _ => project.ownerUserId

def subject (task : CrewTask) : JsonObject :=
  [("task_id", .str task.id), ("run_ref", .str event.executionId)]

def quoted (task : CrewTask) : String := "“" ++ task.title ++ "”"

/-- What is announced about the changed task. -/
def announcement (kind : EventKind) (task : CrewTask) : Announcement :=
  let get := payloadGet event.payload
  let name := memberName task.assigneeMemberId
  let owner := project.ownerUserId
  match kind with
  | .started =>
    { auditType := "crew.task.execution_started"
      auditPayload := subject event task
      body := quoted task ++ "已进入 Worker 执行队列。"
      authorKind := .anna }
  | .claimed =>
    { auditType := "crew.task.execution_claimed"
      auditPayload := subject event task
      body := quoted task ++ "开始由 @" ++ name ++ " 执行。"
      mentions := [task.assigneeMemberId] }
  | .artifact =>
    { auditType := "crew.task.agent_run"
      auditPayload := [("task_id", .str task.id),
        ("artifact_chars", .num ((task.artifact.getD "").length)),
        ("run_ref", .str event.executionId),
        ("memory_hits", .arr (memoryHits host event snapshot))]
      kind := .artifact
      body := quoted task ++ "已由 @" ++ name ++ " 产出。"
      mentions := [task.assigneeMemberId] }
  | .blocked =>
    let reason := reasonOf task .null "Agent execution blocked"
    { auditType := "crew.task.agent_blocked"
      auditPayload := subject event task ++ [("reason", reason),
        ("error_code", get "error_code"),
        ("memory_hits", .arr (memoryHits host event snapshot))]
      body := quoted task ++ "执行受阻：" ++ host.str reason
      notification := some (owner, .blocked, quoted task ++ "执行受阻，需要处理。") }
  | .question =>
    let question := questionText host event
    let target := project.questionTarget host event
    { auditType := "crew.worker.question"
      auditPayload := subject event task ++ [("question", .str question),
        ("target", .str target), ("tool", get "tool"), ("tool_call_id", get "tool_call_id")]
      kind := .say
      body := question
      mentions := [some target]
      payload := some [("question", .str question), ("target", .str target),
        ("reason", orElse (get "reason") (.str "awaiting_input"))]
      notification := some (target, .mention, quoted task ++ "需要你补充信息。") }
  | .recoveryBlocked =>
    let reason := reasonOf task (get "reason") "manual recovery required"
    { auditType := "crew.task.recovery_blocked"
      auditPayload := subject event task ++ [("reason", reason),
        ("manual_recovery_required", get "manual_recovery_required")]
      body := quoted task ++ "需要人工恢复：" ++ host.str reason
      payload := some [("reason", reason), ("manual_recovery_required", .bool true)]
      notification := some (owner, .blocked, quoted task ++ "需要人工恢复。") }
  | .retryScheduled =>
    let reason := orElse (orElse (get "message") (get "reason")) (.str "retry scheduled")
    let facts := [("reason", reason), ("attempt", get "attempt"),
      ("max_attempts", get "max_attempts"), ("not_before", get "not_before")]
    { auditType := "crew.task.retry_scheduled"
      auditPayload := subject event task ++ facts
      body := quoted task ++ "将重试（" ++ host.str (get "attempt") ++ "/" ++
        host.str (get "max_attempts") ++ "）：" ++ host.str reason
      payload := some facts }
  | .failed =>
    let reason := reasonOf task (get "message") "Execution failed"
    { auditType := "crew.task.agent_failed"
      auditPayload := subject event task ++ [("reason", reason),
        ("error_code", errorCode event snapshot)]
      body := quoted task ++ "执行失败：" ++ host.str reason
      notification := some (owner, .blocked, quoted task ++ "执行失败，需要处理。") }
  | .deadLettered =>
    let reason := reasonOf task (get "message") "Execution dead-lettered"
    { auditType := "crew.task.agent_dead_lettered"
      auditPayload := subject event task ++ [("reason", reason),
        ("error_code", errorCode event snapshot), ("attempt", get "attempt"),
        ("max_attempts", get "max_attempts")]
      body := quoted task ++ "进入死信：" ++ host.str reason
      notification := some (owner, .blocked, quoted task ++ "进入死信，需要处理。") }
  | .cancelled =>
    let reason := orElse (.ofOptionStr task.blocker) (.str "执行已取消")
    { auditType := "crew.task.agent_cancelled"
      auditPayload := subject event task ++ [("reason", reason)]
      body := quoted task ++ host.str reason
      notification := some (owner, .blocked, quoted task ++ "执行已取消。") }

/-- `_EffectBuilder.audit`, with the reference to the new entry. -/
def audit (type : String) (payload : JsonObject) : CrewProject × String :=
  let audited := { project with
    auditEvents := project.auditEvents ++
      [{ type, payload, createdAt := host.iso event.createdAt }] }
  (audited, "#a" ++ toString audited.auditEvents.length)

/-- `_EffectBuilder.channel`: the first row of the event. -/
def channelMessage (task : CrewTask) (auditRef : String) (announced : Announcement) :
    ChannelMessage :=
  let byWorker := announced.authorKind = .worker
  { id := project.id ++ ":exec:" ++ event.executionId ++ ":e" ++ toString event.seq ++ ":" ++
      announced.kind.text ++ ":1"
    projectId := project.id
    workspaceId := project.workspaceId
    seq := 0
    authorKind := announced.authorKind
    authorMemberId := none
    workerProfileRef := if byWorker then some snapshot.workerProfileRef else none
    causedByExecutionId := if byWorker then some event.executionId else none
    kind := announced.kind
    body := announced.body
    taskId := some task.id
    runRef := some event.executionId
    mentions := (announced.mentions.filterMap (fun mention => mention)).filter (fun memberId => memberId ≠ "")
    auditRef
    payload := announced.payload
    createdAt := host.iso event.createdAt }

/-- The fields that the schema misses in a row of the worker. -/
def missingProvenance (message : ChannelMessage) : Option String :=
  if message.authorKind ≠ .worker then none
  else if message.workerProfileRef.all (fun profile => host.strip profile = "") then
    some "worker_profile_ref"
  else if message.causedByExecutionId.all (fun executionId => host.strip executionId = "") then
    some "caused_by_execution_id"
  else none

def deepLink (taskId : Option TaskId) : String :=
  let link := "/crew/projects/" ++ project.id
  match taskId with
  | some taskId => if taskId = "" then link else link ++ "?task=" ++ taskId
  | none => link

/-- `_EffectBuilder.notification`, after the notifications before. -/
def notification (before : List Notification) (member : MemberId) (kind : NotificationKind)
    (title : String) (taskId : TaskId) (ref : String) : Notification :=
  { id := "note_exec_" ++ event.executionId ++ "_" ++ toString event.seq ++ "_" ++ kind.text ++
      "_" ++ toString (before.length + 1)
    workspaceId := project.workspaceId
    toMemberId := member
    kind
    title
    deepLink := project.deepLink (some taskId)
    projectId := some project.id
    taskId := some taskId
    readAt := none
    idempotencyKey := "execution:" ++ event.executionId ++ ":" ++ toString event.seq ++ ":" ++
      kind.text ++ ":" ++ taskId ++ ":" ++ member ++ ":" ++ ref
    createdAt := host.iso event.createdAt }

def reviewedVersion (gate : CrewTask) : Nat :=
  match gate.reviewsTaskId with
  | some reviewedId =>
    if reviewedId = "" then 0
    else match project.findTask reviewedId with
      | some reviewed => (reviewed.artifactVersions.getLast?.map ArtifactVersion.version).getD 0
      | none => 0
  | none => 0

/-- The review row of a gate that became ready. -/
def reviewMessage (gate : CrewTask) (auditRef : String) : ChannelMessage :=
  let version := project.reviewedVersion gate
  { id := project.id ++ ":exec:" ++ event.executionId ++ ":e" ++ toString event.seq ++
      ":review:" ++ gate.id ++ ":v" ++ toString version
    projectId := project.id
    workspaceId := project.workspaceId
    seq := 0
    authorKind := .anna
    authorMemberId := none
    workerProfileRef := none
    causedByExecutionId := none
    kind := .review
    body := quoted gate ++ "待评审"
    taskId := some gate.id
    runRef := some event.executionId
    mentions := []
    auditRef
    payload := some [("review_version", .num version)]
    createdAt := host.iso event.createdAt }

/-- `notify_newly_active`, one task after the other. -/
def notifyNewlyActive (auditRef : String) (effects : ProjectionEffects) :
    List CrewTask → ProjectionEffects
  | [] => effects
  | task :: rest =>
    if task.isGate ∧ task.status = .todo then
      notifyNewlyActive auditRef
        { effects with
          channelMessages := effects.channelMessages ++
            [project.reviewMessage host event task auditRef]
          notifications := effects.notifications ++
            [project.notification host event effects.notifications project.ownerUserId .reviewDue
              (quoted task ++ "待你评审。") task.id auditRef] } rest
    else if task.isGate = false ∧ truthy task.assigneeMemberId ∧ task.status = .assigned then
      notifyNewlyActive auditRef
        { effects with
          notifications := effects.notifications ++
            [project.notification host event effects.notifications
              (task.assigneeMemberId.getD "") .unlocked
              (quoted task ++ "已解锁，可以开始。") task.id auditRef] } rest
    else notifyNewlyActive auditRef effects rest

def announce (kind : EventKind) (task : CrewTask) :
    Except ProjectionError (String × CrewProject × ProjectionEffects) :=
  let announced := project.announcement host event snapshot kind task
  let (audited, auditRef) := project.audit host event announced.auditType announced.auditPayload
  let message := audited.channelMessage host event snapshot task auditRef announced
  match missingProvenance host message with
  | some field => .error (.workerProvenance field)
  | none =>
    .ok (auditRef, audited,
      { changed := true
        channelMessages := [message]
        notifications := (announced.notification.map (fun (member, kind, title) =>
          audited.notification host event [] member kind title task.id auditRef)).toList })

end CrewProject

def mutateProjectForExecutionEvent (host : ProjectionHost) (project : CrewProject)
    (event : OutboxRow) (snapshot : ExecutionSnapshot) (taskId : TaskId) :
    Except ProjectionError (CrewProject × ProjectionEffects) :=
  match project.findTask taskId with
  | none => .error (.taskNotFound taskId project.id)
  | some task =>
    match eventKind event.type with
    | none => .ok (project, { changed := false, channelMessages := [], notifications := [] })
    | some kind => do
        let (announces, after) ← project.projectTask host kind task event snapshot
        if announces then do
          let task' := (after.findTask taskId).getD task
          let (auditRef, audited, effects) ← after.announce host event snapshot kind task'
          match kind with
          | .artifact =>
            return (audited, audited.notifyNewlyActive host event auditRef effects
              (audited.newlyActive project.blockedTaskIds))
          | _ => return (audited, effects)
        else return (after, { changed := false, channelMessages := [], notifications := [] })

end AnnaAgent.Crew
