/-
The tables of `SQLiteExecutionStore` and the statements its operations share.

`_ensure_schema` declares the keys; primary keys are part of each table's type,
foreign keys and the remaining unique constraints are checked by the insertions
below.  A JSON column holds the object its text decodes to.
-/

import Mathlib.Data.List.Sort
import AnnaAgent.Foundation.Table
import AnnaAgent.Execution.Models

namespace AnnaAgent.Execution

open Foundation

structure ExecutionRow where
  executionId : ExecutionId
  workspaceId : WorkspaceId
  conversationId : String
  channelId : String
  subjectRef : String
  triggerRef : String
  status : ExecutionStatus
  workerProfileRef : String
  runProfileRef : String
  input : JsonObject
  state : JsonObject
  checkpoint : JsonObject
  version : Nat
  createdAt : Time
  updatedAt : Time
  attempt : Nat
  leaseOwner : Option String
  leaseToken : Nat
  leaseExpiresAt : Option Time
  notBefore : Option Time
  lastErrorCode : Option String
  linkedExecutionId : Option ExecutionId
  redriveMetadata : JsonObject

abbrev ExecutionSnapshot := ExecutionRow

/-- The decoded `result_json` of a command row. -/
inductive CommandResult where
  | execution (executionId : ExecutionId)
  | signal (executionId : ExecutionId) (signalId : SignalId)
  | queueOverflow
  deriving DecidableEq

structure CommandRow where
  workspaceId : WorkspaceId
  requestId : RequestId
  commandType : String
  executionId : Option ExecutionId
  payloadHash : String
  payload : JsonObject
  result : CommandResult
  createdAt : Time

structure EventRow where
  executionId : ExecutionId
  seq : Nat
  type : String
  payload : JsonObject
  createdAt : Time

structure OutboxRow where
  id : Nat
  executionId : ExecutionId
  seq : Nat
  type : String
  payload : JsonObject
  createdAt : Time
  deliveredAt : Option Time := none
  claimOwner : Option String := none
  claimToken : Option String := none
  claimExpiresAt : Option Time := none

structure AttemptRow where
  executionId : ExecutionId
  attempt : Nat
  ownerId : String
  leaseToken : Nat
  startedAt : Time
  heartbeatAt : Time
  leaseExpiresAt : Time
  status : AttemptStatus

structure CheckpointRow where
  executionId : ExecutionId
  checkpoint : JsonObject
  updatedAt : Time

structure SignalRow where
  signalId : SignalId
  workspaceId : WorkspaceId
  requestId : RequestId
  executionId : ExecutionId
  kind : SignalKind
  payload : JsonObject
  createdAt : Time
  appliedAt : Option Time

structure ToolEffectRow where
  effectKey : EffectKey
  executionId : ExecutionId
  toolName : String
  requestHash : String
  status : ToolEffectStatus
  result : Option JsonObject
  createdAt : Time
  updatedAt : Time

@[ext] structure Db where
  executions : Table ExecutionId ExecutionRow ExecutionRow.executionId
  commands : Table (WorkspaceId × RequestId) CommandRow (fun row => (row.workspaceId, row.requestId))
  events : Table (ExecutionId × Nat) EventRow (fun row => (row.executionId, row.seq))
  outbox : Table Nat OutboxRow OutboxRow.id
  attempts : Table (ExecutionId × Nat) AttemptRow (fun row => (row.executionId, row.attempt))
  checkpoints : Table ExecutionId CheckpointRow CheckpointRow.executionId
  signals : Table SignalId SignalRow SignalRow.signalId
  toolEffects : Table EffectKey ToolEffectRow ToolEffectRow.effectKey

def Db.empty : Db :=
  { executions := .empty
    commands := .empty
    events := .empty
    outbox := .empty
    attempts := .empty
    checkpoints := .empty
    signals := .empty
    toolEffects := .empty }

/-- What one call of an operation draws from outside the database: the
successive readings of `clock.now()`, the hex text of the `uuid4` it may draw,
and the points at which the fault hook raises. -/
structure Env where
  clock : Nat → Time
  uuid : String
  fault : String → Bool

/-- The reading most operations take first. -/
abbrev Env.now (env : Env) : Time := env.clock 0

def require (condition : Prop) [Decidable condition] (error : StoreError) :
    Except StoreError Unit :=
  if condition then .ok () else .error error

def orThrow {α : Type} (value : Option α) (error : StoreError) : Except StoreError α :=
  match value with
  | some found => .ok found
  | none => .error error

def checkFault (env : Env) (point : String) : Except StoreError Unit :=
  require (env.fault point = false) (.fault point)

theorem require_ok {condition : Prop} [Decidable condition] {error : StoreError} {value : Unit} :
    require condition error = .ok value ↔ condition := by
  unfold require
  split
  · rename_i holds
    exact ⟨fun _ => holds, fun _ => rfl⟩
  · rename_i fails
    constructor
    · intro impossible
      cases impossible
    · intro holds
      exact absurd holds fails

theorem orThrow_ok {α : Type} {value : Option α} {error : StoreError} {found : α} :
    orThrow value error = .ok found ↔ value = some found := by
  cases value with
  | none =>
    constructor
    · intro impossible
      cases impossible
    · intro impossible
      cases impossible
  | some present =>
    constructor
    · intro same
      exact congrArg some (Except.ok.inj same)
    · intro same
      exact congrArg Except.ok (Option.some.inj same)

theorem require_error {condition : Prop} [Decidable condition] {error raised : StoreError}
    (failed : require condition error = .error raised) : raised = error := by
  unfold require at failed
  split at failed
  · cases failed
  · cases failed
    rfl

theorem orThrow_error {α : Type} {value : Option α} {error raised : StoreError}
    (failed : orThrow value error = .error raised) : raised = error := by
  cases value with
  | none =>
    cases failed
    rfl
  | some present => cases failed

def lastSeq (events : List EventRow) : Nat :=
  (events.map EventRow.seq).foldr max 0

namespace Db

def executionRow (db : Db) (executionId : ExecutionId) : Except StoreError ExecutionRow :=
  orThrow (db.executions.find? executionId) (.executionNotFound executionId)

def executionRowIn (db : Db) (executionId : ExecutionId) (workspaceId : WorkspaceId) :
    Except StoreError ExecutionRow :=
  orThrow ((db.executions.find? executionId).filter (fun row => row.workspaceId = workspaceId))
    (.executionNotFound executionId)

def get (db : Db) (executionId : ExecutionId) : Except StoreError ExecutionSnapshot :=
  db.executionRow executionId

def executionExists (db : Db) (executionId : ExecutionId) : Bool :=
  (db.executions.find? executionId).isSome

def commandRow (db : Db) (workspaceId : WorkspaceId) (requestId : RequestId) :
    Option CommandRow :=
  db.commands.find? (workspaceId, requestId)

def attemptsOf (db : Db) (executionId : ExecutionId) : List AttemptRow :=
  db.attempts.select (fun row => row.executionId = executionId)

def eventsOf (db : Db) (executionId : ExecutionId) : List EventRow :=
  db.events.select (fun row => row.executionId = executionId)

def outboxOf (db : Db) (executionId : ExecutionId) : List OutboxRow :=
  db.outbox.select (fun row => row.executionId = executionId)

def signalsOf (db : Db) (executionId : ExecutionId) : List SignalRow :=
  db.signals.select (fun row => row.executionId = executionId)

def toolEffectsOf (db : Db) (executionId : ExecutionId) : List ToolEffectRow :=
  db.toolEffects.select (fun row => row.executionId = executionId)

/-- `SELECT ... WHERE execution_id = ? AND applied_at IS NULL`, unordered. -/
def pendingSignals (db : Db) (executionId : ExecutionId) : List SignalRow :=
  (db.signalsOf executionId).filter (fun row => row.appliedAt.isNone)

def hasRecoveryBlockingEffect (db : Db) (executionId : ExecutionId) : Bool :=
  (db.toolEffectsOf executionId).any (fun row => row.status.blocksRecovery)

def queuedCount (db : Db) (workspaceId : WorkspaceId) : Nat :=
  (db.executions.select (fun row => row.workspaceId = workspaceId ∧ row.status = .queued)).length

/-- Rows that hold the partial unique index on workspace and subject. -/
def activeOn (db : Db) (workspaceId : WorkspaceId) (subjectRef : String) : List ExecutionRow :=
  db.executions.select
    (fun row => row.workspaceId = workspaceId ∧ row.subjectRef = subjectRef ∧
      row.status.active = true)

def activeExecutionId (db : Db) (workspaceId : WorkspaceId) (subjectRef : String) :
    Option ExecutionId :=
  ((db.activeOn workspaceId subjectRef).minOn? ExecutionRow.createdAt).map ExecutionRow.executionId

/-- `_pending_signal_rows_excluding`; an insertion sort is stable, so rows of
one instant keep their insertion order. -/
def pendingSignalRowsExcluding (db : Db) (executionId : ExecutionId)
    (signalIds : List SignalId) : List SignalRow :=
  ((db.pendingSignals executionId).filter (fun row => row.signalId ∉ signalIds)).insertionSort
    (fun left right => left.createdAt ≤ right.createdAt)

def updateExecutions (db : Db) (p : ExecutionRow → Prop) [DecidablePred p]
    (assign : ExecutionRow → ExecutionRow)
    (keeps : ∀ row, (assign row).executionId = row.executionId := by intro row; rfl) : Db :=
  { db with executions := db.executions.update p assign keeps }

def updateExecution (db : Db) (executionId : ExecutionId)
    (assign : ExecutionRow → ExecutionRow)
    (keeps : ∀ row, (assign row).executionId = row.executionId := by intro row; rfl) : Db :=
  db.updateExecutions (fun row => row.executionId = executionId) assign keeps

def updateAttempts (db : Db) (p : AttemptRow → Prop) [DecidablePred p]
    (assign : AttemptRow → AttemptRow)
    (keeps : ∀ row, ((assign row).executionId, (assign row).attempt) =
      (row.executionId, row.attempt) := by intro row; rfl) : Db :=
  { db with attempts := db.attempts.update p assign keeps }

/-- `UPDATE execution_attempts SET status = ? WHERE execution_id = ? AND
lease_token = ?`. -/
def setAttemptByToken (db : Db) (executionId : ExecutionId) (leaseToken : Nat)
    (status : AttemptStatus) : Db :=
  db.updateAttempts (fun row => row.executionId = executionId ∧ row.leaseToken = leaseToken)
    (fun row => { row with status := status })

/-- `UPDATE execution_attempts SET status = ? WHERE execution_id = ? AND
attempt = ?`. -/
def setAttemptByNumber (db : Db) (executionId : ExecutionId) (attempt : Nat)
    (status : AttemptStatus) : Db :=
  db.updateAttempts (fun row => row.executionId = executionId ∧ row.attempt = attempt)
    (fun row => { row with status := status })

def updateOutbox (db : Db) (p : OutboxRow → Prop) [DecidablePred p]
    (assign : OutboxRow → OutboxRow)
    (keeps : ∀ row, (assign row).id = row.id := by intro row; rfl) : Db :=
  { db with outbox := db.outbox.update p assign keeps }

def updateSignals (db : Db) (p : SignalRow → Prop) [DecidablePred p]
    (assign : SignalRow → SignalRow)
    (keeps : ∀ row, (assign row).signalId = row.signalId := by intro row; rfl) : Db :=
  { db with signals := db.signals.update p assign keeps }

def updateToolEffects (db : Db) (p : ToolEffectRow → Prop) [DecidablePred p]
    (assign : ToolEffectRow → ToolEffectRow)
    (keeps : ∀ row, (assign row).effectKey = row.effectKey := by intro row; rfl) : Db :=
  { db with toolEffects := db.toolEffects.update p assign keeps }

def ackSignalIds (db : Db) (executionId : ExecutionId) (signalIds : List SignalId)
    (appliedAt : Time) : Db :=
  signalIds.foldl
    (fun db signalId =>
      db.updateSignals
        (fun row => row.executionId = executionId ∧ row.signalId = signalId ∧ row.appliedAt = none)
        (fun row => { row with appliedAt := some appliedAt }))
    db

/-- The insertions that carry `REFERENCES executions(execution_id)`. -/
def requireExecution (db : Db) (executionId : ExecutionId) (constraint : String) :
    Except StoreError Unit :=
  require (db.executionExists executionId = true) (.integrity constraint)

def insertAttempt (db : Db) (row : AttemptRow) : Except StoreError Db := do
  db.requireExecution row.executionId "execution_attempts.execution_id"
  let attempts ← orThrow (db.attempts.insert? row)
    (.integrity "execution_attempts PRIMARY KEY")
  return { db with attempts := attempts }

/-- `COALESCE(MAX(seq), 0)`. -/
def maxSeq (db : Db) (executionId : ExecutionId) : Nat :=
  lastSeq (db.eventsOf executionId)

def nextOutboxId (db : Db) : Nat :=
  (db.outbox.rows.map OutboxRow.id).foldr max 0 + 1

def appendEvent (db : Db) (executionId : ExecutionId) (type : String) (payload : JsonObject)
    (now : Time) : Except StoreError Db := do
  let seq := db.maxSeq executionId + 1
  db.requireExecution executionId "execution_events.execution_id"
  let events ← orThrow
    (db.events.insert?
      { executionId := executionId, seq := seq, type := type, payload := payload,
        createdAt := now })
    (.integrity "execution_events PRIMARY KEY")
  require (∀ row ∈ db.outboxOf executionId, row.seq ≠ seq)
    (.integrity "execution_outbox UNIQUE(execution_id, seq)")
  let outbox ← orThrow
    (db.outbox.insert?
      { id := db.nextOutboxId, executionId := executionId, seq := seq, type := type,
        payload := payload, createdAt := now })
    (.integrity "execution_outbox PRIMARY KEY")
  return { db with events := events, outbox := outbox }

def putCheckpoint (db : Db) (row : CheckpointRow) : Except StoreError Db := do
  db.requireExecution row.executionId "execution_checkpoints.execution_id"
  match db.checkpoints.insert? row with
  | some checkpoints => return { db with checkpoints := checkpoints }
  | none =>
    return { db with
      checkpoints := db.checkpoints.update (fun old => old.executionId = row.executionId)
        (fun old => { old with checkpoint := row.checkpoint, updatedAt := row.updatedAt })
        (by intro old; rfl) }

end Db

end AnnaAgent.Execution
