/-
The four commands of `SQLiteExecutionStore.dispatch`.

The digest of a command payload (`_hash_payload`: SHA-256 of its JSON text) is a
parameter.  A queue overflow is recorded in the transaction and raised after it,
so a dispatch can fail and still have changed the command table.
-/

import AnnaAgent.Execution.Store

namespace AnnaAgent.Execution

open Foundation

/-- `hashlib.sha256(_json(payload)).hexdigest()`. -/
abbrev Digest := JsonObject → String

/-- What a recorded Start or Redrive replays: its execution, or `none` for a
queue overflow. -/
def CommandResult.created : CommandResult → Option ExecutionId
  | .execution executionId => some executionId
  | .signal executionId _ => some executionId
  | .queueOverflow => none

/-- `json.loads(result_json)["execution_id"]`. -/
def CommandResult.target : CommandResult → Except StoreError ExecutionId
  | .execution executionId => .ok executionId
  | .signal executionId _ => .ok executionId
  | .queueOverflow => .error (.keyError "execution_id")

def ExecutionRow.touched (row : ExecutionRow) (now : Time) : ExecutionRow :=
  { row with version := row.version + 1, updatedAt := now }

/-- The assignment of a cancellation; unlike a release it leaves `not_before`. -/
def ExecutionRow.cancelled (row : ExecutionRow) (now : Time) : ExecutionRow :=
  { row with
    status := .cancelled
    leaseOwner := none
    leaseExpiresAt := none
    version := row.version + 1
    updatedAt := now }

namespace Db

def insertCommand (digest : Digest) (db : Db) (command : ExecutionCommand)
    (executionId : Option ExecutionId) (result : CommandResult) (now : Time) :
    Except StoreError Db := do
  require (∀ id ∈ executionId, db.executionExists id = true)
    (.integrity "execution_commands.execution_id")
  let commands ← orThrow
    (db.commands.insert?
      { workspaceId := command.workspaceId, requestId := command.requestId,
        commandType := command.typeName, executionId := executionId,
        payloadHash := digest command.payload, payload := command.payload,
        result := result, createdAt := now })
    (.integrity "execution_commands PRIMARY KEY")
  return { db with commands := commands }

def assertSameCommand (digest : Digest) (existing : CommandRow) (command : ExecutionCommand) :
    Except StoreError Unit :=
  require (existing.payloadHash = digest command.payload) (.idempotencyConflict existing.requestId)

def replayTarget (digest : Digest) (db : Db) (existing : CommandRow)
    (command : ExecutionCommand) : Except StoreError (ExecutionSnapshot × Db) := do
  assertSameCommand digest existing command
  let executionId ← existing.result.target
  let snapshot ← db.get executionId
  return (snapshot, db)

/-- `INSERT INTO executions`, with the primary key and the partial unique
index `idx_executions_one_active_subject`. -/
def insertExecution (db : Db) (row : ExecutionRow) : Except StoreError Db := do
  require (row.status.active = true → (db.activeOn row.workspaceId row.subjectRef).isEmpty = true)
    (.integrity "idx_executions_one_active_subject")
  let executions ← orThrow (db.executions.insert? row) (.integrity "executions PRIMARY KEY")
  return { db with executions := executions }

def startRow (command : StartExecution) (executionId : ExecutionId) (now : Time) :
    ExecutionRow :=
  { executionId := executionId
    workspaceId := command.workspaceId
    conversationId := command.conversationId
    channelId := command.channelId
    subjectRef := command.subjectRef
    triggerRef := command.triggerRef
    status := .queued
    workerProfileRef := command.workerProfileRef
    runProfileRef := command.runProfileRef
    input := command.input
    state := []
    checkpoint := []
    version := 1
    createdAt := now
    updatedAt := now
    attempt := 0
    leaseOwner := none
    leaseToken := 0
    leaseExpiresAt := none
    notBefore := none
    lastErrorCode := none
    linkedExecutionId := none
    redriveMetadata := [] }

def startedPayload (row : ExecutionRow) : JsonObject :=
  [("workspace_id", .str row.workspaceId),
   ("conversation_id", .str row.conversationId),
   ("channel_id", .str row.channelId),
   ("subject_ref", .str row.subjectRef),
   ("trigger_ref", .str row.triggerRef),
   ("worker_profile_ref", .str row.workerProfileRef),
   ("run_profile_ref", .str row.runProfileRef)]

/-- The `except sqlite3.IntegrityError` of `_dispatch_start`: a failed insertion
becomes a typed conflict when the subject has an active execution. -/
def insertStarted (db : Db) (row : ExecutionRow) : Except StoreError Db :=
  match db.insertExecution row with
  | .ok db' => .ok db'
  | .error error =>
    match db.activeExecutionId row.workspaceId row.subjectRef with
    | none => .error error
    | some existingId => .error (.activeExecutionConflict row.subjectRef existingId)

/-- The transaction of `_dispatch_start`; `none` stands for a queue overflow. -/
def startTransaction (digest : Digest) (env : Env) (command : StartExecution)
    (maxQueueDepth : Int) (db : Db) : Except StoreError (Option ExecutionId × Db) := do
  match db.commandRow command.workspaceId command.requestId with
  | some existing =>
    assertSameCommand digest existing (.start command)
    return (existing.result.created, db)
  | none =>
    if maxQueueDepth ≤ db.queuedCount command.workspaceId then
      let db ← db.insertCommand digest (.start command) none .queueOverflow (env.clock 0)
      return (none, db)
    else
      let executionId := "exec_" ++ env.uuid
      let row := startRow command executionId (env.clock 0)
      let db ← db.insertStarted row
      let db ← db.appendEvent executionId "execution.started" (startedPayload row) (env.clock 1)
      let db ← db.insertCommand digest (.start command) (some executionId)
        (.execution executionId) (env.clock 2)
      return (some executionId, db)

def redriveRow (command : RedriveExecution) (original : ExecutionRow)
    (executionId : ExecutionId) (now : Time) : ExecutionRow :=
  { executionId := executionId
    workspaceId := original.workspaceId
    conversationId := original.conversationId
    channelId := original.channelId
    subjectRef := original.subjectRef
    triggerRef := original.triggerRef
    status := .queued
    workerProfileRef := original.workerProfileRef
    runProfileRef := original.runProfileRef
    input := original.input
    state := []
    checkpoint := []
    version := 1
    createdAt := now
    updatedAt := now
    attempt := 0
    leaseOwner := none
    leaseToken := 0
    leaseExpiresAt := none
    notBefore := none
    lastErrorCode := none
    linkedExecutionId := some original.executionId
    redriveMetadata :=
      [("redrive_of", .str original.executionId), ("reason", .str command.reason)] }

/-- The transaction of `_dispatch_redrive`.  Its insertion has no handler for
`IntegrityError`. -/
def redriveTransaction (digest : Digest) (env : Env) (command : RedriveExecution)
    (maxQueueDepth : Int) (db : Db) : Except StoreError (Option ExecutionId × Db) := do
  match db.commandRow command.workspaceId command.requestId with
  | some existing =>
    assertSameCommand digest existing (.redrive command)
    return (existing.result.created, db)
  | none =>
    let original ← db.executionRowIn command.executionId command.workspaceId
    require (original.status = .failed ∨ original.status = .cancelled)
      (.terminalState command.executionId)
    if maxQueueDepth ≤ db.queuedCount command.workspaceId then
      let db ← db.insertCommand digest (.redrive command) none .queueOverflow (env.clock 0)
      return (none, db)
    else
      let executionId := "exec_" ++ env.uuid
      let row := redriveRow command original executionId (env.clock 0)
      let db ← db.insertExecution row
      let db ← db.appendEvent executionId "execution.started"
        (startedPayload row ++ [("redrive", .obj row.redriveMetadata)]) (env.clock 1)
      let db ← db.insertCommand digest (.redrive command) (some executionId)
        (.execution executionId) (env.clock 2)
      return (some executionId, db)

def insertSignal (db : Db) (row : SignalRow) : Except StoreError Db := do
  db.requireExecution row.executionId "execution_signals.execution_id"
  require (∀ other ∈ db.signals.rows,
      ¬ (other.workspaceId = row.workspaceId ∧ other.requestId = row.requestId))
    (.integrity "execution_signals UNIQUE(workspace_id, request_id)")
  let signals ← orThrow (db.signals.insert? row) (.integrity "execution_signals PRIMARY KEY")
  return { db with signals := signals }

/-- `_dispatch_signal`; the type of `kind` leaves no invalid kind to reject. -/
def dispatchSignal (digest : Digest) (env : Env) (command : SignalExecution) (db : Db) :
    Except StoreError (ExecutionSnapshot × Db) := do
  match db.commandRow command.workspaceId command.requestId with
  | some existing => replayTarget digest db existing (.signal command)
  | none =>
    let row ← db.executionRowIn command.executionId command.workspaceId
    require (row.status.terminal = false) (.terminalState command.executionId)
    let now := env.clock 0
    let signalId := "sig_" ++ env.uuid
    let db ← db.insertSignal
      { signalId := signalId, workspaceId := command.workspaceId,
        requestId := command.requestId, executionId := command.executionId,
        kind := command.kind, payload := command.payload, createdAt := now,
        appliedAt := none }
    let db ← db.appendEvent command.executionId "execution.signaled"
      [("signal_id", .str signalId), ("kind", .str command.kind.text)] (env.clock 1)
    let db := db.updateExecution command.executionId
      (fun old => old.touched now)
    let db ← db.insertCommand digest (.signal command) (some command.executionId)
      (.signal command.executionId signalId) (env.clock 2)
    let snapshot ← db.get command.executionId
    return (snapshot, db)

def dispatchCancel (digest : Digest) (env : Env) (command : CancelExecution) (db : Db) :
    Except StoreError (ExecutionSnapshot × Db) := do
  match db.commandRow command.workspaceId command.requestId with
  | some existing => replayTarget digest db existing (.cancel command)
  | none =>
    let row ← db.executionRowIn command.executionId command.workspaceId
    require (row.status.terminal = false) (.terminalState command.executionId)
    let now := env.clock 0
    let db ← db.appendEvent command.executionId "execution.cancelled"
      [("reason", .str command.reason)] (env.clock 1)
    let db :=
      if row.leaseToken = 0 then db
      else db.setAttemptByToken command.executionId row.leaseToken .cancelled
    let db := db.updateExecution command.executionId
      (fun old => old.cancelled now)
    let db ← db.insertCommand digest (.cancel command) (some command.executionId)
      (.execution command.executionId) (env.clock 2)
    let snapshot ← db.get command.executionId
    return (snapshot, db)

/-- The end of `_dispatch_start` and `_dispatch_redrive`: the overflow is raised
after the transaction that recorded it has been committed. -/
def afterCreation (requestId : RequestId)
    (committed : Except StoreError (Option ExecutionId) × Db) :
    Except StoreError ExecutionSnapshot × Db :=
  match committed with
  | (.ok (some executionId), db) => (db.get executionId, db)
  | (.ok none, db) => (.error (.queueOverflow requestId), db)
  | (.error error, db) => (.error error, db)

def dispatch (digest : Digest) (env : Env) (command : ExecutionCommand)
    (maxQueueDepth : Int) (db : Db) : Except StoreError ExecutionSnapshot × Db :=
  match command with
  | .start command =>
    afterCreation command.requestId
      (atomically (startTransaction digest env command maxQueueDepth) db)
  | .signal command => atomically (dispatchSignal digest env command) db
  | .cancel command => atomically (dispatchCancel digest env command) db
  | .redrive command =>
    afterCreation command.requestId
      (atomically (redriveTransaction digest env command maxQueueDepth) db)

end Db

end AnnaAgent.Execution
