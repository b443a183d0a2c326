/-
The life of one execution, seen apart from the others.

The tables hold many executions, but every transaction acts on each of them by a
few kinds of step.  `Aggregate` collects what the tables hold about one
execution and `Transition` lists the steps with their guards; that every
operation moves every aggregate along transitions is shown in the next module,
and the invariants of the store are proved here once for each transition.
-/

import AnnaAgent.Foundation.Run
import AnnaAgent.Execution.Dispatch
import AnnaAgent.Execution.Outbox

namespace AnnaAgent.Execution

open Foundation

/-- The rows of all tables that belong to one execution. -/
@[ext] structure Aggregate where
  row : Option ExecutionRow
  attempts : List AttemptRow
  events : List EventRow
  outbox : List OutboxRow
  signals : List SignalRow
  effects : List ToolEffectRow

structure Emission where
  type : String
  payload : JsonObject
  createdAt : Time
  outboxId : Nat

def Emission.content (emission : Emission) : String × JsonObject :=
  (emission.type, emission.payload)

namespace Aggregate

def setRow (aggregate : Aggregate) (row : ExecutionRow) : Aggregate :=
  { aggregate with row := some row }

def addAttempt (aggregate : Aggregate) (attempt : AttemptRow) : Aggregate :=
  { aggregate with attempts := aggregate.attempts ++ [attempt] }

def mapAttempts (aggregate : Aggregate) (p : AttemptRow → Prop) [DecidablePred p]
    (assign : AttemptRow → AttemptRow) : Aggregate :=
  { aggregate with
    attempts := aggregate.attempts.map (fun row => if p row then assign row else row) }

def mapOutbox (aggregate : Aggregate) (p : OutboxRow → Prop) [DecidablePred p]
    (assign : OutboxRow → OutboxRow) : Aggregate :=
  { aggregate with
    outbox := aggregate.outbox.map (fun row => if p row then assign row else row) }

def addSignal (aggregate : Aggregate) (signal : SignalRow) : Aggregate :=
  { aggregate with signals := aggregate.signals ++ [signal] }

def acknowledge (aggregate : Aggregate) (signalIds : List SignalId) (appliedAt : Time) :
    Aggregate :=
  { aggregate with
    signals := aggregate.signals.map (fun signal =>
      if signal.signalId ∈ signalIds ∧ signal.appliedAt = none then
        { signal with appliedAt := some appliedAt }
      else signal) }

def nextEvent (aggregate : Aggregate) (executionId : ExecutionId) (emission : Emission) :
    EventRow :=
  { executionId := executionId
    seq := lastSeq aggregate.events + 1
    type := emission.type
    payload := emission.payload
    createdAt := emission.createdAt }

def emit (aggregate : Aggregate) (executionId : ExecutionId) (emission : Emission) :
    Aggregate :=
  { aggregate with
    events := aggregate.events ++ [aggregate.nextEvent executionId emission]
    outbox := aggregate.outbox ++
      [{ id := emission.outboxId, executionId := executionId,
         seq := lastSeq aggregate.events + 1, type := emission.type,
         payload := emission.payload, createdAt := emission.createdAt }] }

def emitAll (aggregate : Aggregate) (executionId : ExecutionId) (emissions : List Emission) :
    Aggregate :=
  emissions.foldl (fun current emission => current.emit executionId emission) aggregate

theorem emitAll_append (aggregate : Aggregate) (executionId : ExecutionId)
    (early late : List Emission) :
    aggregate.emitAll executionId (early ++ late) =
      (aggregate.emitAll executionId early).emitAll executionId late :=
  List.foldl_append

theorem emitAll_keeps {α : Type} (view : Aggregate → α) (executionId : ExecutionId)
    (kept : ∀ current emission, view (current.emit executionId emission) = view current)
    (aggregate : Aggregate) (emissions : List Emission) :
    view (aggregate.emitAll executionId emissions) = view aggregate := by
  induction emissions generalizing aggregate with
  | nil => rfl
  | cons head tail ih => exact (ih (aggregate.emit executionId head)).trans (kept aggregate head)

@[simp] theorem emitAll_row (aggregate : Aggregate) (executionId : ExecutionId)
    (emissions : List Emission) :
    (aggregate.emitAll executionId emissions).row = aggregate.row :=
  emitAll_keeps Aggregate.row executionId (fun _ _ => rfl) aggregate emissions

@[simp] theorem emitAll_attempts (aggregate : Aggregate) (executionId : ExecutionId)
    (emissions : List Emission) :
    (aggregate.emitAll executionId emissions).attempts = aggregate.attempts :=
  emitAll_keeps Aggregate.attempts executionId (fun _ _ => rfl) aggregate emissions

@[simp] theorem emitAll_signals (aggregate : Aggregate) (executionId : ExecutionId)
    (emissions : List Emission) :
    (aggregate.emitAll executionId emissions).signals = aggregate.signals :=
  emitAll_keeps Aggregate.signals executionId (fun _ _ => rfl) aggregate emissions

def pending (aggregate : Aggregate) : List SignalRow :=
  aggregate.signals.filter (fun signal => signal.appliedAt.isNone)

def blocked (aggregate : Aggregate) : Bool :=
  aggregate.effects.any (fun effect => effect.status.blocksRecovery)

end Aggregate

/-- The ways an attempt gives its lease up without a merged result. -/
inductive ReleaseKind where
  | deferred (result : LoopResult) (signalIds : List SignalId)
  | retried (maxAttempts : Int)
  | deadLettered
  | blockedClaimed
  | blockedLapsed
  | requeuedClaimed
  | requeuedLapsed

namespace ReleaseKind

def status : ReleaseKind → ExecutionStatus
  | deferred _ _ | retried _ | requeuedClaimed | requeuedLapsed => .queued
  | blockedClaimed | blockedLapsed => .awaitingSignal
  | deadLettered => .failed

def attemptStatus : ReleaseKind → AttemptStatus
  | deferred _ _ | retried _ | requeuedClaimed => .queued
  | blockedClaimed => .awaitingSignal
  | blockedLapsed => .interrupted
  | requeuedLapsed => .expired
  | deadLettered => .failed

def eventType : ReleaseKind → String
  | deferred _ _ => "execution.result_deferred"
  | retried _ => "execution.retry_scheduled"
  | blockedClaimed | blockedLapsed => "execution.recovery_blocked"
  | requeuedClaimed | requeuedLapsed => "execution.requeued"
  | deadLettered => "execution.dead_lettered"

def consumed : ReleaseKind → List SignalId
  | deferred _ signalIds => signalIds
  | _ => []

/-- Whether the lease had run out; the attempt is then addressed by its number
and else by its token. -/
def lapsed : ReleaseKind → Bool
  | blockedLapsed | requeuedLapsed => true
  | _ => false

def Selects (kind : ReleaseKind) (row : ExecutionRow) (attempt : AttemptRow) : Prop :=
  if kind.lapsed = true then attempt.attempt = row.attempt
  else attempt.leaseToken = row.leaseToken

instance (kind : ReleaseKind) (row : ExecutionRow) : DecidablePred (kind.Selects row) := by
  intro attempt
  unfold Selects
  infer_instance

def Lease (kind : ReleaseKind) (row : ExecutionRow) (now : Time) : Prop :=
  if kind.lapsed = true then row.Lapsed now
  else ∃ ownerId, row.Fenced ownerId row.leaseToken now

/-- What else has to hold for a release of this kind. -/
def Guard (kind : ReleaseKind) (aggregate : Aggregate) (row : ExecutionRow) : Prop :=
  match kind with
  | deferred result signalIds =>
    result.status.terminal = true ∧ ∃ signal ∈ aggregate.pending, signal.signalId ∉ signalIds
  | retried maxAttempts => aggregate.blocked = false ∧ (row.attempt : Int) < maxAttempts
  | blockedClaimed | blockedLapsed => aggregate.blocked = true
  | requeuedLapsed => aggregate.blocked = false
  | deadLettered | requeuedClaimed => True

end ReleaseKind

inductive Label where
  | started
  | signaled (signalId : SignalId)
  | cancelled
  | claimed
  | reclaimed
  | renewed
  | merged (result : LoopResult) (signalIds : List SignalId)
  | released (kind : ReleaseKind)
  | effectRecorded
  | outboxClaimed
  | outboxDelivered

def Label.Claims : Label → Prop
  | claimed | reclaimed => True
  | _ => False

def openedAttempt (executionId : ExecutionId) (row : ExecutionRow) (ownerId : String)
    (leaseExpiresAt now : Time) : AttemptRow :=
  { executionId := executionId
    attempt := row.attempt + 1
    ownerId := ownerId
    leaseToken := row.leaseToken + 1
    startedAt := now
    heartbeatAt := now
    leaseExpiresAt := leaseExpiresAt
    status := .running }

def closingEvents (result : LoopResult) : List (String × JsonObject) :=
  if result.status.terminal = true then
    [("execution." ++ result.status.text, terminalPayload result)]
  else []

/-- The steps of one execution. -/
inductive Transition (executionId : ExecutionId) : Aggregate → Label → Aggregate → Prop
  | started {before : Aggregate} {row : ExecutionRow} {emission : Emission}
      (absent : before.row = none) (queued : row.status = .queued)
      (unclaimed : row.attempt = 0 ∧ row.leaseToken = 0)
      (free : row.leaseOwner = none ∧ row.leaseExpiresAt = none)
      (named : emission.type = "execution.started") :
      Transition executionId before .started ((before.setRow row).emit executionId emission)
  | signaled {before : Aggregate} {row : ExecutionRow} {signal : SignalRow}
      {emission : Emission} {now : Time}
      (present : before.row = some row) (alive : row.status.terminal = false)
      (unapplied : signal.appliedAt = none) (named : emission.type = "execution.signaled") :
      Transition executionId before (.signaled signal.signalId)
        (((before.addSignal signal).emit executionId emission).setRow (row.touched now))
  | cancelled {before : Aggregate} {row : ExecutionRow} {emission : Emission} {now : Time}
      (present : before.row = some row) (alive : row.status.terminal = false)
      (named : emission.type = "execution.cancelled") :
      Transition executionId before .cancelled
        (((before.emit executionId emission).mapAttempts
          (fun attempt => row.leaseToken ≠ 0 ∧ attempt.leaseToken = row.leaseToken)
          (fun attempt => { attempt with status := .cancelled })).setRow (row.cancelled now))
  | claimed {before : Aggregate} {row : ExecutionRow} {ownerId : String}
      {leaseExpiresAt now : Time} {emission : Emission}
      (present : before.row = some row)
      (idle : row.status = .queued ∨ (row.status = .awaitingSignal ∧ before.pending ≠ []))
      (named : emission.type = "execution.claimed") :
      Transition executionId before .claimed
        (((before.setRow (row.claimedBy ownerId (row.attempt + 1) (row.leaseToken + 1)
            leaseExpiresAt now)).addAttempt
          (openedAttempt executionId row ownerId leaseExpiresAt now)).emit executionId emission)
  | reclaimed {before : Aggregate} {row : ExecutionRow} {ownerId : String}
      {leaseExpiresAt now : Time} {expiry emission : Emission}
      (present : before.row = some row) (lapsed : row.Lapsed now)
      (safe : before.blocked = false) (expiryNamed : expiry.type = "execution.lease_expired")
      (named : emission.type = "execution.claimed") :
      Transition executionId before .reclaimed
        (((((before.mapAttempts (fun attempt => attempt.attempt = row.attempt)
            (fun attempt => { attempt with status := .expired })).emit executionId expiry).setRow
          (row.claimedBy ownerId (row.attempt + 1) (row.leaseToken + 1) leaseExpiresAt
            now)).addAttempt
          (openedAttempt executionId row ownerId leaseExpiresAt now)).emit executionId emission)
  | renewed {before : Aggregate} {row : ExecutionRow} {ownerId : String}
      {leaseExpiresAt now : Time}
      (present : before.row = some row) (held : row.Fenced ownerId row.leaseToken now) :
      Transition executionId before .renewed
        ((before.setRow (row.renewed leaseExpiresAt now)).mapAttempts
          (fun attempt => attempt.leaseToken = row.leaseToken)
          (fun attempt => attempt.renewed leaseExpiresAt now))
  | merged {before : Aggregate} {row : ExecutionRow} {ownerId : String} {now : Time}
      {result : LoopResult} {signalIds : List SignalId} {emissions : List Emission}
      (present : before.row = some row) (held : row.Fenced ownerId row.leaseToken now)
      (allowed : result.status ≠ .cancelled)
      (settled : result.status.terminal = true →
        ∀ signal ∈ before.pending, signal.signalId ∈ signalIds)
      (plain : ∀ event ∈ result.events, event.1 ∉ terminalEventTypes)
      (emitted : emissions.map Emission.content = result.events ++ closingEvents result) :
      Transition executionId before (.merged result signalIds)
        ((((before.emitAll executionId emissions).mapAttempts
          (fun attempt => attempt.leaseToken = row.leaseToken)
          (fun attempt => { attempt with status := result.status.attempt })).setRow
          (row.merged row ownerId result now)).acknowledge signalIds now)
  | released {before : Aggregate} {row : ExecutionRow} {kind : ReleaseKind}
      {now : Time} {notBefore : Option Time} {lastErrorCode : Option String}
      {emission : Emission}
      (present : before.row = some row) (lease : kind.Lease row now)
      (guarded : kind.Guard before row) (named : emission.type = kind.eventType) :
      Transition executionId before (.released kind)
        ((((before.acknowledge kind.consumed now).mapAttempts (kind.Selects row)
          (fun attempt => { attempt with status := kind.attemptStatus })).setRow
          { row.released kind.status now with
            notBefore := notBefore, lastErrorCode := lastErrorCode }).emit executionId emission)
  | effectRecorded {before : Aggregate} {effects : List ToolEffectRow} :
      Transition executionId before .effectRecorded { before with effects := effects }
  | outboxClaimed {before : Aggregate} {ids : List Nat} {ownerId claimToken : String}
      {claimExpiresAt now : Time}
      (chosen : ∀ row ∈ before.outbox, row.id ∈ ids →
        (∀ expires ∈ row.claimExpiresAt, expires ≤ now) ∧
          ∀ earlier ∈ before.outbox, earlier.seq < row.seq → earlier.deliveredAt.isSome = true) :
      Transition executionId before .outboxClaimed
        (before.mapOutbox (fun row => row.id ∈ ids ∧ row.deliveredAt.isNone = true)
          (fun row => row.claimedBy ownerId claimToken claimExpiresAt))
  | outboxDelivered {before : Aggregate} {ids : List Nat} {ownerId claimToken : String}
      {now : Time} :
      Transition executionId before .outboxDelivered
        (before.mapOutbox (Acknowledges ids ownerId claimToken now) (fun row => row.delivered now))

namespace Transition

variable {executionId : ExecutionId} {before after : Aggregate}

theorem released_inv {kind : ReleaseKind}
    (step : Transition executionId before (.released kind) after) :
    ∃ row row' now, before.row = some row ∧ kind.Lease row now ∧ kind.Guard before row ∧
      after.row = some row' ∧ row'.status = kind.status ∧
      after.signals = (before.acknowledge kind.consumed now).signals := by
  cases step with
  | released present lease guarded named =>
    exact ⟨_, _, _, present, lease, guarded, rfl, rfl, rfl⟩

theorem claims_inv {label : Label} (claims : label.Claims)
    (step : Transition executionId before label after) :
    ∃ row row', before.row = some row ∧ after.row = some row' ∧
      row'.leaseToken = row.leaseToken + 1 ∧ row'.status = .running ∧
      (row.status = .queued ∨ (row.status = .awaitingSignal ∧ before.pending ≠ []) ∨
        (row.status = .running ∧ before.blocked = false)) := by
  cases step with
  | claimed present idle named =>
    exact ⟨_, _, present, rfl, rfl, rfl, idle.imp_right Or.inl⟩
  | reclaimed present lapsed safe expiryNamed named =>
    exact ⟨_, _, present, rfl, rfl, rfl, Or.inr (Or.inr ⟨lapsed.1, safe⟩)⟩
  | started | signaled | cancelled | renewed | merged | released | effectRecorded | outboxClaimed
  | outboxDelivered => cases claims

end Transition

end AnnaAgent.Execution
