/-
The lease operations of `SQLiteExecutionStore`.

Each definition is the body of one transaction: it takes the database the
transaction begins with and returns a value with the new database, or the error
whose rollback discards every change.  The comments name the branch of the
source where one definition holds several.
-/

import Mathlib.Data.Prod.Lex
import Mathlib.Data.String.Basic
import AnnaAgent.Execution.Schema

namespace AnnaAgent.Execution

open Foundation

def validateLeaseTtl (leaseTtlSeconds : Seconds) : Except StoreError Time :=
  match leaseTtlSeconds with
  | .finite value =>
    if 0 < value then .ok value
    else .error (.valueError "lease_ttl_seconds must be finite and > 0")
  | .nonFinite => .error (.valueError "lease_ttl_seconds must be finite and > 0")

def ExecutionRow.Fenced (row : ExecutionRow) (ownerId : String) (leaseToken : Nat)
    (now : Time) : Prop :=
  row.status = .running ∧ row.leaseOwner = some ownerId ∧ row.leaseToken = leaseToken ∧
    ∃ expires ∈ row.leaseExpiresAt, now < expires

instance (row : ExecutionRow) (ownerId : String) (leaseToken : Nat) (now : Time) :
    Decidable (row.Fenced ownerId leaseToken now) := by
  unfold ExecutionRow.Fenced
  infer_instance

def assertFence (row : ExecutionRow) (ownerId : String) (leaseToken : Nat) (now : Time) :
    Except StoreError Unit :=
  require (row.Fenced ownerId leaseToken now) (.fencing row.executionId)

/-- `status = 'running' AND lease_expires_at <= now`. -/
def ExecutionRow.Lapsed (row : ExecutionRow) (now : Time) : Prop :=
  row.status = .running ∧ ∃ expires ∈ row.leaseExpiresAt, expires ≤ now

instance (row : ExecutionRow) (now : Time) : Decidable (row.Lapsed now) := by
  unfold ExecutionRow.Lapsed
  infer_instance

/-- `ORDER BY created_at ASC, execution_id ASC`. -/
def ExecutionRow.claimOrder (row : ExecutionRow) : Lex (Time × ExecutionId) :=
  toLex (row.createdAt, row.executionId)

/-- The assignment of every update that gives up a lease without naming
anything else. -/
def ExecutionRow.released (row : ExecutionRow) (status : ExecutionStatus) (now : Time) :
    ExecutionRow :=
  { row with
    status := status
    leaseOwner := none
    leaseExpiresAt := none
    notBefore := none
    version := row.version + 1
    updatedAt := now }

def ExecutionRow.claimedBy (row : ExecutionRow) (ownerId : String) (attempt leaseToken : Nat)
    (leaseExpiresAt now : Time) : ExecutionRow :=
  { row with
    status := .running
    attempt := attempt
    leaseOwner := some ownerId
    leaseToken := leaseToken
    leaseExpiresAt := some leaseExpiresAt
    notBefore := none
    version := row.version + 1
    updatedAt := now }

def ExecutionRow.renewed (row : ExecutionRow) (leaseExpiresAt now : Time) : ExecutionRow :=
  { row with
    leaseExpiresAt := some leaseExpiresAt
    updatedAt := now
    version := row.version + 1 }

def AttemptRow.renewed (row : AttemptRow) (leaseExpiresAt now : Time) : AttemptRow :=
  { row with heartbeatAt := now, leaseExpiresAt := leaseExpiresAt }

/-- The assignment of a merged loop result.  The merged objects and the kept
deadline come from the row read at the start of the transaction. -/
def ExecutionRow.merged (row read : ExecutionRow) (ownerId : String) (result : LoopResult)
    (now : Time) : ExecutionRow :=
  { row with
    status := result.status
    state := dictUpdate read.state result.state
    checkpoint := dictUpdate read.checkpoint result.checkpoint
    lastErrorCode := result.lastErrorCode
    leaseOwner := if result.status = .running then some ownerId else none
    leaseExpiresAt := if result.status = .running then read.leaseExpiresAt else none
    notBefore := none
    version := row.version + 1
    updatedAt := now }

def terminalEventTypes : List String :=
  ["execution.succeeded", "execution.failed", "execution.cancelled", "execution.dead_lettered"]

def validateLoopResult (result : LoopResult) : Except StoreError Unit := do
  require (result.status.allowedLoop = true)
    (.valueError ("invalid loop result status: " ++ result.status.text))
  require (result.status ≠ .cancelled) (.valueError "loop adapter may not cancel executions")

def terminalPayload (result : LoopResult) : JsonObject :=
  [("status", .str result.status.text), ("error_code", .ofOptionStr result.lastErrorCode)] ++
    match result.errorMessage with
    | none => []
    | some message => [("message", .str message)]

def failureResult (errorCode message : String) : LoopResult :=
  { status := .failed
    lastErrorCode := some errorCode
    events := [("execution.error", [("error_code", .str errorCode), ("message", .str message)])]
    errorMessage := some message }

/-- `float(not_before)` of a finite number. -/
def requireFinite (value : Seconds) (message : String) : Except StoreError Time :=
  match value with
  | .finite seconds => .ok seconds
  | .nonFinite => .error (.valueError message)

def checkToolEffect (existing : ToolEffectRow) (executionId : ExecutionId)
    (toolName requestHash : String) (status : ToolEffectStatus) : Except StoreError Unit := do
  require
    (existing.executionId = executionId ∧ existing.toolName = toolName ∧
      existing.requestHash = requestHash)
    (.toolEffectConflict existing.effectKey)
  require (existing.status.mayBecome status = true)
    (.toolEffectTransition existing.effectKey existing.status status)

/-- `min(1000, max(1, int(limit)))`. -/
def clampLimit (limit : Int) : Nat :=
  min 1000 (max 1 limit).toNat

namespace Db

def blockExpiredRunningForRecovery (db : Db) (row : ExecutionRow) (now eventAt : Time) :
    Except StoreError Db :=
  ((db.setAttemptByNumber row.executionId row.attempt .interrupted).updateExecution
      row.executionId (fun old => old.released .awaitingSignal now)).appendEvent
    row.executionId "execution.recovery_blocked"
    [("reason", .str "external_effect_uncertain"),
     ("expired_owner", .ofOptionStr row.leaseOwner),
     ("expired_lease_token", .num row.leaseToken)]
    eventAt

def blockClaimedForManualRecovery (db : Db) (row : ExecutionRow) (ownerId : String)
    (leaseToken : Nat) (now eventAt : Time) : Except StoreError Db :=
  ((db.setAttemptByToken row.executionId leaseToken .awaitingSignal).updateExecution
      row.executionId (fun old => old.released .awaitingSignal now)).appendEvent
    row.executionId "execution.recovery_blocked"
    [("reason", .str "effect_outcome_unknown"),
     ("manual_recovery_required", .bool true),
     ("owner_id", .str ownerId),
     ("lease_token", .num leaseToken),
     ("attempt", .num row.attempt)]
    eventAt

def deadLetterClaimedRow (db : Db) (row : ExecutionRow) (ownerId : String) (leaseToken : Nat)
    (reason errorCode message : String) (maxAttempts : Int) (now eventAt : Time) :
    Except StoreError Db :=
  ((db.setAttemptByToken row.executionId leaseToken .failed).updateExecution
      row.executionId
      (fun old => { old.released .failed now with lastErrorCode := some errorCode })).appendEvent
    row.executionId "execution.dead_lettered"
    [("status", .str "failed"),
     ("reason", .str reason),
     ("error_code", .str errorCode),
     ("message", .str message),
     ("attempt", .num row.attempt),
     ("max_attempts", .num maxAttempts),
     ("owner_id", .str ownerId),
     ("lease_token", .num leaseToken)]
    eventAt

/-- The `WHERE` clause of the claim query. -/
def Claimable (db : Db) (now : Time) (row : ExecutionRow) : Prop :=
  (row.status = .queued ∧ ∀ notBefore ∈ row.notBefore, notBefore ≤ now) ∨
    (row.status = .awaitingSignal ∧ db.pendingSignals row.executionId ≠ []) ∨
    row.Lapsed now

instance (db : Db) (now : Time) (row : ExecutionRow) : Decidable (db.Claimable now row) := by
  unfold Claimable
  have : Decidable (db.pendingSignals row.executionId ≠ []) :=
    decidable_of_iff (¬ (db.pendingSignals row.executionId).isEmpty) (by simp)
  infer_instance

def nextClaimable (db : Db) (now : Time) : Option ExecutionRow :=
  (db.executions.select (fun row => db.Claimable now row)).minOn? ExecutionRow.claimOrder

/-- The `while True` loop: block lapsed executions with an uncertain effect
until a row can be claimed or none is left.  `tick` counts the clock readings
taken so far. -/
def claimLoop (env : Env) (now : Time) :
    Nat → Nat → Db → Except StoreError (Option ExecutionRow × Nat × Db)
  | 0, _, _ => .error .outOfFuel
  | fuel + 1, tick, db =>
    match db.nextClaimable now with
    | none => .ok (none, tick, db)
    | some row =>
      if row.status = .running ∧ db.hasRecoveryBlockingEffect row.executionId = true then do
        let db ← db.blockExpiredRunningForRecovery row now (env.clock tick)
        claimLoop env now fuel (tick + 1) db
      else .ok (some row, tick, db)

/-- The first step of a claim: a lapsed attempt is marked expired. -/
def expireAttempt (db : Db) (row : ExecutionRow) (eventAt : Time) : Except StoreError Db :=
  if row.status = .running then
    (db.setAttemptByNumber row.executionId row.attempt .expired).appendEvent
      row.executionId "execution.lease_expired"
      [("owner_id", .ofOptionStr row.leaseOwner),
       ("lease_token", .num row.leaseToken),
       ("attempt", .num row.attempt)]
      eventAt
  else .ok db

/-- The part of `claim_next` after the loop has picked a row. -/
def claimRow (env : Env) (now : Time) (ownerId : String) (leaseExpiresAt : Time)
    (row : ExecutionRow) (tick : Nat) (db : Db) : Except StoreError (ExecutionLease × Db) := do
  let db ← expireAttempt db row (env.clock tick)
  let attempt := row.attempt + 1
  let leaseToken := row.leaseToken + 1
  let db := db.updateExecutions
    (fun old => old.executionId = row.executionId ∧
      (old.status = .queued ∨ old.status = .awaitingSignal ∨ old.Lapsed now))
    (fun old => old.claimedBy ownerId attempt leaseToken leaseExpiresAt now)
  let db ← db.insertAttempt
    { executionId := row.executionId, attempt := attempt, ownerId := ownerId,
      leaseToken := leaseToken, startedAt := now, heartbeatAt := now,
      leaseExpiresAt := leaseExpiresAt, status := .running }
  let db ← db.appendEvent row.executionId "execution.claimed"
    [("owner_id", .str ownerId), ("attempt", .num attempt), ("lease_token", .num leaseToken)]
    (env.clock (if row.status = .running then tick + 1 else tick))
  let lease : ExecutionLease :=
    { executionId := row.executionId, ownerId := ownerId, leaseToken := leaseToken,
      attempt := attempt, leaseExpiresAt := leaseExpiresAt }
  return (lease, db)

/-- Each round of the loop but the last takes one row out of `running`. -/
def claimFuel (db : Db) : Nat :=
  (db.executions.select (fun row => row.status = .running)).length + 1

def claimNext (env : Env) (ownerId : String) (leaseTtlSeconds : Seconds) (db : Db) :
    Except StoreError (Option ExecutionLease × Db) := do
  let ttl ← validateLeaseTtl leaseTtlSeconds
  let (picked, tick, db) ← claimLoop env env.now db.claimFuel 1 db
  match picked with
  | none => return (none, db)
  | some row =>
    let (lease, db) ← claimRow env env.now ownerId (env.now + ttl) row tick db
    return (some lease, db)

/-! ### `heartbeat` -/

def heartbeat (env : Env) (executionId : ExecutionId) (ownerId : String) (leaseToken : Nat)
    (leaseTtlSeconds : Seconds) (db : Db) : Except StoreError (Bool × Db) := do
  let ttl ← validateLeaseTtl leaseTtlSeconds
  let now := env.now
  let leaseExpiresAt := now + ttl
  let held := (db.executions.find? executionId).any
    (fun row => row.Fenced ownerId leaseToken now)
  -- `UPDATE executions ... WHERE` the lease is held; `rowcount` says whether it was.
  let db' := db.updateExecutions
    (fun row => row.executionId = executionId ∧ row.Fenced ownerId leaseToken now)
    (fun row => row.renewed leaseExpiresAt now)
  if held then
    return (true, db'.updateAttempts
      (fun row => row.executionId = executionId ∧ row.leaseToken = leaseToken)
      (fun row => row.renewed leaseExpiresAt now))
  else return (false, db')

/-- The branch of `commit_loop_result` for a terminal result that signals have
overtaken: acknowledge what the loop consumed, drop the rest and queue again. -/
def deferLoopResult (db : Db) (row : ExecutionRow) (ownerId : String) (leaseToken : Nat)
    (result : LoopResult) (signalIds : List SignalId) (lateSignals : List SignalRow)
    (now eventAt : Time) : Except StoreError Db :=
  (((db.ackSignalIds row.executionId signalIds now).setAttemptByToken
      row.executionId leaseToken .queued).updateExecution
      row.executionId (fun old => old.released .queued now)).appendEvent
    row.executionId "execution.result_deferred"
    [("reason", .str "late_signal"),
     ("deferred_status", .str result.status.text),
     ("owner_id", .str ownerId),
     ("lease_token", .num leaseToken),
     ("applied_signal_ids", .arr (signalIds.map .str)),
     ("pending_signal_ids", .arr (lateSignals.map (fun signal => .str signal.signalId))),
     ("pending_signal_kinds", .arr (lateSignals.map (fun signal => .str signal.kind.text)))]
    eventAt

def appendLoopEvents (env : Env) (executionId : ExecutionId) :
    Nat → List (String × JsonObject) → Db → Except StoreError Db
  | _, [], db => .ok db
  | tick, (type, payload) :: rest, db => do
      require (type ∉ terminalEventTypes)
        (.valueError "loop adapter may not emit terminal execution events")
      let db ← db.appendEvent executionId type payload (env.clock tick)
      appendLoopEvents env executionId (tick + 1) rest db

def closeLoopEvents (env : Env) (db : Db) (executionId : ExecutionId) (result : LoopResult) :
    Except StoreError Db :=
  if result.status.terminal = true then
    db.appendEvent executionId ("execution." ++ result.status.text) (terminalPayload result)
      (env.clock (1 + result.events.length))
  else .ok db

/-- The branch of `commit_loop_result` that merges the result into the
execution. -/
def mergeLoopResult (env : Env) (db : Db) (row : ExecutionRow) (ownerId : String)
    (leaseToken : Nat) (result : LoopResult) (signalIds : List SignalId) (now : Time) :
    Except StoreError Db := do
  let executionId := row.executionId
  let db ← appendLoopEvents env executionId 1 result.events db
  let db ← closeLoopEvents env db executionId result
  let db := db.setAttemptByToken executionId leaseToken result.status.attempt
  let db := db.updateExecution executionId (fun old => old.merged row ownerId result now)
  let db ← db.putCheckpoint
    { executionId := executionId, checkpoint := dictUpdate row.checkpoint result.checkpoint,
      updatedAt := now }
  return db.ackSignalIds executionId signalIds now

/-- Which branch `commit_loop_result` takes, after its checks. -/
def storeLoopResult (env : Env) (db : Db) (row : ExecutionRow) (ownerId : String)
    (leaseToken : Nat) (result : LoopResult) (signalIds : List SignalId) (now : Time) :
    Except StoreError Db :=
  if result.status.terminal = true ∧
      (db.pendingSignalRowsExcluding row.executionId signalIds).isEmpty = false then
    db.deferLoopResult row ownerId leaseToken result signalIds
      (db.pendingSignalRowsExcluding row.executionId signalIds) now (env.clock 1)
  else db.mergeLoopResult env row ownerId leaseToken result signalIds now

def commitLoopResult (env : Env) (executionId : ExecutionId) (ownerId : String)
    (leaseToken : Nat) (result : LoopResult) (signalIds : Option (List SignalId)) (db : Db) :
    Except StoreError (ExecutionSnapshot × Db) := do
  validateLoopResult result
  let now := env.now
  let signalIds := signalIds.getD result.appliedSignalIds
  let row ← db.executionRow executionId
  assertFence row ownerId leaseToken now
  checkFault env "before_commit_loop_result"
  let db ← storeLoopResult env db row ownerId leaseToken result signalIds now
  let snapshot ← db.get executionId
  return (snapshot, db)

def failExecution (env : Env) (executionId : ExecutionId) (ownerId : String)
    (leaseToken : Nat) (errorCode message : String) (db : Db) :
    Except StoreError (ExecutionSnapshot × Db) :=
  db.commitLoopResult env executionId ownerId leaseToken (failureResult errorCode message) none

/-- The branch of `schedule_retry_claimed` that queues the execution again. -/
def scheduleRetryRow (db : Db) (row : ExecutionRow) (leaseToken : Nat)
    (reason errorCode message : String) (notBefore : Time) (maxAttempts : Int)
    (now eventAt : Time) : Except StoreError Db :=
  ((db.setAttemptByToken row.executionId leaseToken .queued).updateExecution
      row.executionId
      (fun old =>
        { old.released .queued now with
          notBefore := some notBefore, lastErrorCode := some errorCode })).appendEvent
    row.executionId "execution.retry_scheduled"
    [("reason", .str reason),
     ("error_code", .str errorCode),
     ("message", .str message),
     ("attempt", .num row.attempt),
     ("max_attempts", .num maxAttempts),
     ("not_before", .num notBefore)]
    eventAt

def scheduleRetryClaimed (env : Env) (executionId : ExecutionId) (ownerId : String)
    (leaseToken : Nat) (reason errorCode message : String) (notBefore : Seconds)
    (maxAttempts : Int) (db : Db) : Except StoreError (ExecutionSnapshot × Db) := do
  require (0 < maxAttempts) (.valueError "max_attempts must be > 0")
  let notBefore ← requireFinite notBefore "not_before must be finite"
  let now := env.now
  let row ← db.executionRow executionId
  assertFence row ownerId leaseToken now
  if db.hasRecoveryBlockingEffect executionId then
    let db ← db.blockClaimedForManualRecovery row ownerId leaseToken now (env.clock 1)
    let snapshot ← db.get executionId
    return (snapshot, db)
  else if maxAttempts ≤ row.attempt then
    let db ← db.deadLetterClaimedRow row ownerId leaseToken reason errorCode message
      maxAttempts now (env.clock 1)
    checkFault env "before_schedule_dead_letter_commit"
    let snapshot ← db.get executionId
    return (snapshot, db)
  else
    let db ← db.scheduleRetryRow row leaseToken reason errorCode message notBefore
      maxAttempts now (env.clock 1)
    checkFault env "before_schedule_retry_commit"
    let snapshot ← db.get executionId
    return (snapshot, db)

def deadLetterClaimed (env : Env) (executionId : ExecutionId) (ownerId : String)
    (leaseToken : Nat) (reason errorCode message : String) (maxAttempts : Int) (db : Db) :
    Except StoreError (ExecutionSnapshot × Db) := do
  let now := env.now
  let row ← db.executionRow executionId
  assertFence row ownerId leaseToken now
  let db ← db.deadLetterClaimedRow row ownerId leaseToken reason errorCode message
    maxAttempts now (env.clock 1)
  checkFault env "before_dead_letter_commit"
  let snapshot ← db.get executionId
  return (snapshot, db)

def requeueLapsedRow (db : Db) (row : ExecutionRow) (now eventAt : Time) :
    Except StoreError Db :=
  ((db.setAttemptByNumber row.executionId row.attempt .expired).updateExecution
      row.executionId (fun old => old.released .queued now)).appendEvent
    row.executionId "execution.requeued"
    [("reason", .str "startup_reconcile"),
     ("expired_owner", .ofOptionStr row.leaseOwner),
     ("expired_lease_token", .num row.leaseToken)]
    eventAt

def healLapsedRow (db : Db) (row : ExecutionRow) (now eventAt : Time) : Except StoreError Db :=
  if db.hasRecoveryBlockingEffect row.executionId = true then
    db.blockExpiredRunningForRecovery row now eventAt
  else db.requeueLapsedRow row now eventAt

def reconcileRows (env : Env) (now : Time) :
    Nat → List ExecutionRow → Db → Except StoreError Db
  | _, [], db => .ok db
  | tick, row :: rest, db => do
      let db ← db.healLapsedRow row now (env.clock tick)
      reconcileRows env now (tick + 1) rest db

/-- The rows `reconcile_startup` heals, oldest first. -/
def lapsedRows (db : Db) (now : Time) : List ExecutionRow :=
  (db.executions.select (fun row => row.Lapsed now)).insertionSort
    (fun left right => left.createdAt ≤ right.createdAt)

def reconcileStartup (env : Env) (db : Db) : Except StoreError (Nat × Db) := do
  let rows := db.lapsedRows env.now
  let db ← reconcileRows env env.now 1 rows db
  return (rows.length, db)

def requeueClaimed (env : Env) (executionId : ExecutionId) (ownerId : String)
    (leaseToken : Nat) (reason : String) (db : Db) :
    Except StoreError (ExecutionSnapshot × Db) := do
  let now := env.now
  let row ← db.executionRow executionId
  assertFence row ownerId leaseToken now
  let db ← ((db.setAttemptByToken executionId leaseToken .queued).updateExecution
      executionId (fun old => old.released .queued now)).appendEvent
    executionId "execution.requeued"
    [("reason", .str reason), ("owner_id", .str ownerId), ("lease_token", .num leaseToken)]
    (env.clock 1)
  let snapshot ← db.get executionId
  return (snapshot, db)

def recordToolEffect (env : Env) (executionId : ExecutionId) (effectKey : EffectKey)
    (toolName requestHash : String) (status : ToolEffectStatus) (result : Option JsonObject)
    (db : Db) : Except StoreError (Unit × Db) := do
  let now := env.now
  match db.toolEffects.find? effectKey with
  | some existing =>
    checkToolEffect existing executionId toolName requestHash status
    return ((), db.updateToolEffects (fun row => row.effectKey = effectKey)
      (fun row => { row with status := status, result := result, updatedAt := now }))
  | none =>
    db.requireExecution executionId "execution_tool_effects.execution_id"
    let toolEffects ← orThrow
      (db.toolEffects.insert?
        { effectKey := effectKey, executionId := executionId, toolName := toolName,
          requestHash := requestHash, status := status, result := result,
          createdAt := now, updatedAt := now })
      (.integrity "execution_tool_effects PRIMARY KEY")
    return ((), { db with toolEffects := toolEffects })

end Db

end AnnaAgent.Execution
