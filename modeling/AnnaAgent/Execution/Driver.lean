/-
`ExecutionDriver.run_once`: claim an execution, run the loop adapter under a
heartbeat, and record what it did.

Every worker repeats `run_once`, and the calls of different workers on the store
interleave.  The event loop runs nothing else of a worker between two calls of
one handler, but another process may.  What the adapter does is input.
-/

import AnnaAgent.Execution.System

namespace AnnaAgent.Execution

open Foundation

/-- What the driver computes with outside the store: the first eight bytes of a
SHA-256 digest as a number, and `str(exc)`. -/
structure Host where
  bucket : String → Nat
  describe : StoreError → String

/-- `RetryPolicy`, valid as `__post_init__` leaves it.  A jitter callback may
raise. -/
structure RetryPolicy where
  maxAttempts : Nat
  baseDelaySeconds : Time
  maxDelaySeconds : Time
  jitter : Option (String → Nat → Time → Except String Seconds)
  attemptsPositive : 0 < maxAttempts
  basePositive : 0 < baseDelaySeconds
  ordered : baseDelaySeconds ≤ maxDelaySeconds

def defaultRetryPolicy : RetryPolicy :=
  { maxAttempts := 3
    baseDelaySeconds := 1
    maxDelaySeconds := 60
    jitter := none
    attemptsPositive := by decide
    basePositive := by decide
    ordered := by decide }

def stableJitter (host : Host) (executionKey : String) (attempt : Nat) (delay : Time) : Time :=
  let jitterCap := min 1 (max 0 delay * (1 / 5))
  if jitterCap = 0 then 0
  else (host.bucket (executionKey ++ ":" ++ toString attempt) : Time) / (2 ^ 64 - 1) * jitterCap

/-- The delay before jitter.  `2 ** exponent` of 1024 and more does not convert
to a float. -/
def RetryPolicy.baseDelay (policy : RetryPolicy) (attempt : Nat)
    (retryAfterSeconds : Option Seconds) : Except String Time :=
  match retryAfterSeconds with
  | some (.finite value) =>
    if value < 0 then .error "retry_after_seconds must be finite and >= 0" else .ok value
  | some .nonFinite => .error "retry_after_seconds must be finite and >= 0"
  | none =>
    if 1024 ≤ attempt - 1 then .error "int too large to convert to float"
    else .ok (min policy.maxDelaySeconds (policy.baseDelaySeconds * 2 ^ (attempt - 1)))

def RetryPolicy.delayForAttempt (host : Host) (policy : RetryPolicy) (executionKey : String)
    (attempt : Nat) (retryAfterSeconds : Option Seconds) : Except String Time := do
  let baseDelay ← policy.baseDelay attempt retryAfterSeconds
  let jitter ←
    match policy.jitter with
    | none => .ok (.finite (stableJitter host executionKey attempt baseDelay))
    | some jitter => jitter executionKey attempt baseDelay
  match jitter with
  | .finite value => return max 0 (min policy.maxDelaySeconds (baseDelay + value))
  | .nonFinite => .error "retry jitter must be finite"

/-- How `adapter.run` ends.  `aborted` is an exception the driver records
nothing for: `FencingError`, or one that is no `Exception`. -/
inductive AdapterOutcome where
  | returned (result : LoopResult)
  | retryableLoopError (message errorCode : String) (retryAfterSeconds : Option Seconds)
  | raised (message : String)
  | cancelled
  | aborted

def resultRequestsRetry (result : LoopResult) : Bool :=
  result.status = .failed && result.retryable && result.safeToRetry

/-- The adapter has returned or was cancelled, so waiting for it raises nothing
but `CancelledError`. -/
def AdapterOutcome.Quiet : AdapterOutcome → Prop
  | .returned _ | .cancelled => True
  | .retryableLoopError _ _ _ | .raised _ | .aborted => False

def AdapterOutcome.Fails : AdapterOutcome → Prop
  | .returned result => result.status = .failed ∧ result.appliedSignalIds = []
  | .retryableLoopError _ _ _ | .raised _ | .cancelled | .aborted => True

structure ExecutionDriver where
  leaseTtlSeconds : Time
  retryPolicy : RetryPolicy
  ttlPositive : 0 < leaseTtlSeconds

/-- What `run_once` does with the outcome of the adapter. -/
inductive Recording where
  /-- Call the store; an error other than fencing is recorded as a failure with
  this code and text. -/
  | call (operation : Operation) (errorCode : String) (message : StoreError → String)
  | fail (errorCode message : String)
  | requeue
  | abandon

namespace ExecutionDriver

variable (driver : ExecutionDriver) (host : Host)

/-- `_schedule_retry`, up to the call of the store; `now` is its reading of the
clock. -/
def scheduleRetry (now : Time) (ownerId : String) (lease : ExecutionLease)
    (reason errorCode message : String) (retryAfterSeconds : Option Seconds) :
    Except String Operation := do
  let delay ← driver.retryPolicy.delayForAttempt host lease.executionId lease.attempt
    retryAfterSeconds
  return .scheduleRetryClaimed lease.executionId ownerId lease.leaseToken reason errorCode message
    (.finite (now + delay)) driver.retryPolicy.maxAttempts

def orDefault (value : Option String) (default : String) : String :=
  match value with
  | none => default
  | some text => if text = "" then default else text

/-- The part of `run_once` after the adapter has ended. -/
def record (now : Time) (ownerId : String) (lease : ExecutionLease) : AdapterOutcome → Recording
  | .returned result =>
    if resultRequestsRetry result then
      match driver.scheduleRetry host now ownerId lease "loop_result_retryable"
        (orDefault result.lastErrorCode "loop_retryable_failure")
        (orDefault result.errorMessage "Loop requested retry.") result.retryAfterSeconds with
      | .ok operation => .call operation "loop_error" host.describe
      | .error text => .fail "loop_error" text
    else
      .call (.commitLoopResult lease.executionId ownerId lease.leaseToken result
        (some result.appliedSignalIds)) "loop_error" host.describe
  | .retryableLoopError message errorCode retryAfterSeconds =>
    match driver.scheduleRetry host now ownerId lease "loop_exception_retryable" errorCode message
      retryAfterSeconds with
    | .ok operation =>
      .call operation errorCode
        (fun error => message ++ "; retry scheduling failed: " ++ host.describe error)
    | .error text => .fail errorCode (message ++ "; retry scheduling failed: " ++ text)
  | .raised message => .fail "loop_error" message
  | .cancelled => .requeue
  | .aborted => .abandon

end ExecutionDriver

/-- Where a worker stands in `run_once`. -/
inductive Phase where
  | idle
  | working (ownerId : String) (lease : ExecutionLease)
  /-- The heartbeat has lost the lease. -/
  | lost (ownerId : String) (lease : ExecutionLease)
  /-- An exception is about to be recorded by `fail_execution`. -/
  | failing (ownerId : String) (lease : ExecutionLease) (errorCode message : String)

def Phase.afterClaim (ownerId : String) (outcome : Outcome) : Phase :=
  match outcome.lease with
  | some lease => .working ownerId lease
  | none => .idle

def Phase.afterHeartbeat (ownerId : String) (lease : ExecutionLease) : Outcome → Phase
  | .ok (.renewed true) => .working ownerId lease
  | _ => .lost ownerId lease

/-- After a call in the `try` block: `FencingError` ends the run, any other
error is recorded. -/
def Phase.afterCall (ownerId : String) (lease : ExecutionLease) (errorCode : String)
    (message : StoreError → String) : Outcome → Phase
  | .ok _ => .idle
  | .error (.fencing _) => .idle
  | .error error => .failing ownerId lease errorCode (message error)

/-- The handlers of `run_once` get to see how the adapter ended: once the
heartbeat has lost the lease, only what the cancelled adapter raises. -/
def Phase.Ends (ownerId : String) (lease : ExecutionLease) (adapter : AdapterOutcome) :
    Phase → Prop
  | .working worker held => worker = ownerId ∧ held = lease
  | .lost worker held => worker = ownerId ∧ held = lease ∧ ¬ adapter.Quiet
  | .idle | .failing _ _ _ _ => False

/-- What a step of a worker shows: its call on the store, and what the adapter
did when it ended. -/
structure Event where
  performed : Option Performed
  adapter : Option AdapterOutcome := none

/-- The steps of one worker.  `shutdown` and `tornDown` are a cancellation of
`run_once` itself. -/
inductive RunOnce (digest : Digest) (driver : ExecutionDriver) (host : Host) :
    Db → Phase → Event → Db → Phase → Prop
  | claim {db db' : Db} {env : Env} {ownerId : String} {outcome : Outcome}
      (done : perform digest ⟨env, .claimNext ownerId (.finite driver.leaseTtlSeconds)⟩ db =
        (outcome, db')) :
      RunOnce digest driver host db .idle
        { performed := some ⟨⟨env, .claimNext ownerId (.finite driver.leaseTtlSeconds)⟩, outcome⟩ }
        db' (.afterClaim ownerId outcome)
  | heartbeat {db db' : Db} {env : Env} {ownerId : String} {lease : ExecutionLease}
      {outcome : Outcome}
      (done : perform digest ⟨env, .heartbeat lease.executionId ownerId lease.leaseToken
        (.finite driver.leaseTtlSeconds)⟩ db = (outcome, db')) :
      RunOnce digest driver host db (.working ownerId lease)
        { performed := some ⟨⟨env, .heartbeat lease.executionId ownerId lease.leaseToken
          (.finite driver.leaseTtlSeconds)⟩, outcome⟩ }
        db' (.afterHeartbeat ownerId lease outcome)
  | giveUp {db db' : Db} {env : Env} {ownerId : String} {lease : ExecutionLease}
      {outcome : Outcome} {adapter : AdapterOutcome} (quiet : adapter.Quiet)
      (done : perform digest ⟨env, .requeueClaimed lease.executionId ownerId lease.leaseToken
        "heartbeat_lost"⟩ db = (outcome, db')) :
      RunOnce digest driver host db (.lost ownerId lease)
        { performed := some ⟨⟨env, .requeueClaimed lease.executionId ownerId lease.leaseToken
            "heartbeat_lost"⟩, outcome⟩
          adapter := some adapter }
        db' (.afterCall ownerId lease "loop_error" host.describe outcome)
  | shutdown {db db' : Db} {env : Env} {ownerId : String} {lease : ExecutionLease}
      {outcome : Outcome} {adapter : AdapterOutcome} (quiet : adapter.Quiet)
      (done : perform digest ⟨env, .requeueClaimed lease.executionId ownerId lease.leaseToken
        "runtime_shutdown"⟩ db = (outcome, db')) :
      RunOnce digest driver host db (.working ownerId lease)
        { performed := some ⟨⟨env, .requeueClaimed lease.executionId ownerId lease.leaseToken
            "runtime_shutdown"⟩, outcome⟩
          adapter := some adapter }
        db' .idle
  | tornDown {db : Db} {ownerId : String} {lease : ExecutionLease} {adapter : AdapterOutcome}
      (raises : ¬ adapter.Quiet) :
      RunOnce digest driver host db (.working ownerId lease)
        { performed := none, adapter := some adapter } db .idle
  | recorded {db db' : Db} {env : Env} {phase : Phase} {ownerId : String} {lease : ExecutionLease}
      {outcome : Outcome} {adapter : AdapterOutcome} {reading : Time} {operation : Operation}
      {errorCode : String} {message : StoreError → String}
      (ended : phase.Ends ownerId lease adapter)
      (decided : driver.record host reading ownerId lease adapter =
        .call operation errorCode message)
      (done : perform digest ⟨env, operation⟩ db = (outcome, db')) :
      RunOnce digest driver host db phase
        { performed := some ⟨⟨env, operation⟩, outcome⟩, adapter := some adapter }
        db' (.afterCall ownerId lease errorCode message outcome)
  | raised {db : Db} {phase : Phase} {ownerId : String} {lease : ExecutionLease}
      {adapter : AdapterOutcome} {reading : Time} {errorCode message : String}
      (ended : phase.Ends ownerId lease adapter)
      (decided : driver.record host reading ownerId lease adapter = .fail errorCode message) :
      RunOnce digest driver host db phase
        { performed := none, adapter := some adapter }
        db (.failing ownerId lease errorCode message)
  | cancelled {db db' : Db} {env : Env} {phase : Phase} {ownerId : String}
      {lease : ExecutionLease} {outcome : Outcome} {adapter : AdapterOutcome} {reading : Time}
      (ended : phase.Ends ownerId lease adapter)
      (decided : driver.record host reading ownerId lease adapter = .requeue)
      (done : perform digest ⟨env, .requeueClaimed lease.executionId ownerId lease.leaseToken
        "runtime_shutdown"⟩ db = (outcome, db')) :
      RunOnce digest driver host db phase
        { performed := some ⟨⟨env, .requeueClaimed lease.executionId ownerId lease.leaseToken
            "runtime_shutdown"⟩, outcome⟩
          adapter := some adapter }
        db' .idle
  | abandoned {db : Db} {phase : Phase} {ownerId : String} {lease : ExecutionLease}
      {adapter : AdapterOutcome} {reading : Time} (ended : phase.Ends ownerId lease adapter)
      (decided : driver.record host reading ownerId lease adapter = .abandon) :
      RunOnce digest driver host db phase
        { performed := none, adapter := some adapter } db .idle
  | failed {db db' : Db} {env : Env} {ownerId : String} {lease : ExecutionLease}
      {errorCode message : String} {outcome : Outcome}
      (done : perform digest ⟨env, .failExecution lease.executionId ownerId lease.leaseToken
        errorCode message⟩ db = (outcome, db')) :
      RunOnce digest driver host db (.failing ownerId lease errorCode message)
        { performed := some ⟨⟨env, .failExecution lease.executionId ownerId lease.leaseToken
          errorCode message⟩, outcome⟩ }
        db' .idle

structure World where
  db : Db
  workers : Nat → Phase

def WorldStep (digest : Digest) (driver : ExecutionDriver) (host : Host) (before : World)
    (event : Event) (after : World) : Prop :=
  ∃ worker, RunOnce digest driver host before.db (before.workers worker) event after.db
      (after.workers worker) ∧
    ∀ other, other ≠ worker → after.workers other = before.workers other

end AnnaAgent.Execution
