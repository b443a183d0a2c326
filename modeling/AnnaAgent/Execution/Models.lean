/-
Commands, loop results and errors of the durable execution kernel
(`models.py`, `errors.py`).

Clock readings are seconds and are kept exact as rationals; a number that a
caller hands in may also be infinite or not a number, and the checks of the
source reject it.
-/

import Mathlib.Data.Rat.Defs
import Mathlib.Algebra.Order.Ring.Rat
import AnnaAgent.Foundation.Transaction

namespace AnnaAgent.Execution

/-- A clock reading or a duration, in seconds. -/
abbrev Time := ℚ

abbrev ExecutionId := String
abbrev WorkspaceId := String
abbrev RequestId := String
abbrev SignalId := String
abbrev EffectKey := String

inductive Seconds where
  | finite (value : Time)
  | nonFinite
  deriving DecidableEq

inductive Json where
  | null
  | bool (value : Bool)
  | num (value : ℚ)
  | str (value : String)
  | arr (items : List Json)
  | obj (fields : List (String × Json))

/-- A `dict[str, Any]`, as its entries. -/
abbrev JsonObject := List (String × Json)

def Json.ofOptionStr : Option String → Json
  | none => .null
  | some text => .str text

/-- `dict[key]`, when present. -/
def dictGet (fields : JsonObject) (name : String) : Option Json :=
  (fields.find? (fun field => field.1 = name)).map Prod.snd

def dictSet (fields : JsonObject) (name : String) (value : Json) : JsonObject :=
  if fields.any (fun field => field.1 = name) then
    fields.map (fun field => if field.1 = name then (name, value) else field)
  else fields ++ [(name, value)]

def dictUpdate (base extra : JsonObject) : JsonObject :=
  extra.foldl (fun fields field => dictSet fields field.1 field.2) base

inductive ExecutionStatus where
  | queued | running | awaitingSignal | succeeded | failed | cancelled
  deriving DecidableEq, Repr

namespace ExecutionStatus

def text : ExecutionStatus → String
  | queued => "queued"
  | running => "running"
  | awaitingSignal => "awaiting_signal"
  | succeeded => "succeeded"
  | failed => "failed"
  | cancelled => "cancelled"

def terminal : ExecutionStatus → Bool
  | succeeded | failed | cancelled => true
  | queued | running | awaitingSignal => false

def active : ExecutionStatus → Bool
  | queued | running | awaitingSignal => true
  | succeeded | failed | cancelled => false

/-- `ALLOWED_LOOP_STATUSES`. -/
def allowedLoop : ExecutionStatus → Bool
  | queued | running | awaitingSignal | succeeded | failed => true
  | cancelled => false

theorem active_eq_not_terminal (status : ExecutionStatus) : status.active = !status.terminal := by
  cases status <;> rfl

end ExecutionStatus

inductive AttemptStatus where
  | running | queued | awaitingSignal | succeeded | failed | cancelled | expired | interrupted
  deriving DecidableEq, Repr

def ExecutionStatus.attempt : ExecutionStatus → AttemptStatus
  | queued => .queued
  | running => .running
  | awaitingSignal => .awaitingSignal
  | succeeded => .succeeded
  | failed => .failed
  | cancelled => .cancelled

inductive SignalKind where
  | steer | answer | approval
  deriving DecidableEq, Repr

def SignalKind.text : SignalKind → String
  | steer => "steer"
  | answer => "answer"
  | approval => "approval"

/-- `_TOOL_EFFECT_STATUSES`. -/
inductive ToolEffectStatus where
  | pending | unknown | succeeded | failed
  deriving DecidableEq, Repr

namespace ToolEffectStatus

/-- `_EFFECT_RECOVERY_BLOCKERS`. -/
def blocksRecovery : ToolEffectStatus → Bool
  | pending | unknown => true
  | succeeded | failed => false

/-- `_TOOL_EFFECT_TRANSITIONS`. -/
def mayBecome : ToolEffectStatus → ToolEffectStatus → Bool
  | pending, _ => true
  | unknown, pending => false
  | unknown, _ => true
  | succeeded, succeeded => true
  | succeeded, _ => false
  | failed, failed => true
  | failed, _ => false

end ToolEffectStatus

structure StartExecution where
  requestId : RequestId
  workspaceId : WorkspaceId
  conversationId : String
  channelId : String
  subjectRef : String
  triggerRef : String
  workerProfileRef : String
  runProfileRef : String
  input : JsonObject

structure SignalExecution where
  requestId : RequestId
  workspaceId : WorkspaceId
  executionId : ExecutionId
  kind : SignalKind
  payload : JsonObject

structure CancelExecution where
  requestId : RequestId
  workspaceId : WorkspaceId
  executionId : ExecutionId
  reason : String

structure RedriveExecution where
  requestId : RequestId
  workspaceId : WorkspaceId
  executionId : ExecutionId
  reason : String

inductive ExecutionCommand where
  | start (command : StartExecution)
  | signal (command : SignalExecution)
  | cancel (command : CancelExecution)
  | redrive (command : RedriveExecution)

namespace ExecutionCommand

def workspaceId : ExecutionCommand → WorkspaceId
  | start command => command.workspaceId
  | signal command => command.workspaceId
  | cancel command => command.workspaceId
  | redrive command => command.workspaceId

def requestId : ExecutionCommand → RequestId
  | start command => command.requestId
  | signal command => command.requestId
  | cancel command => command.requestId
  | redrive command => command.requestId

/-- `type(command).__name__`. -/
def typeName : ExecutionCommand → String
  | start _ => "StartExecution"
  | signal _ => "SignalExecution"
  | cancel _ => "CancelExecution"
  | redrive _ => "RedriveExecution"

def payload : ExecutionCommand → JsonObject
  | start command =>
    [("request_id", .str command.requestId),
     ("workspace_id", .str command.workspaceId),
     ("conversation_id", .str command.conversationId),
     ("channel_id", .str command.channelId),
     ("subject_ref", .str command.subjectRef),
     ("trigger_ref", .str command.triggerRef),
     ("worker_profile_ref", .str command.workerProfileRef),
     ("run_profile_ref", .str command.runProfileRef),
     ("input", .obj command.input),
     ("command_type", .str "StartExecution")]
  | signal command =>
    [("request_id", .str command.requestId),
     ("workspace_id", .str command.workspaceId),
     ("execution_id", .str command.executionId),
     ("kind", .str command.kind.text),
     ("payload", .obj command.payload),
     ("command_type", .str "SignalExecution")]
  | cancel command =>
    [("request_id", .str command.requestId),
     ("workspace_id", .str command.workspaceId),
     ("execution_id", .str command.executionId),
     ("reason", .str command.reason),
     ("command_type", .str "CancelExecution")]
  | redrive command =>
    [("request_id", .str command.requestId),
     ("workspace_id", .str command.workspaceId),
     ("execution_id", .str command.executionId),
     ("reason", .str command.reason),
     ("command_type", .str "RedriveExecution")]

end ExecutionCommand

structure LoopResult where
  status : ExecutionStatus := .running
  state : JsonObject := []
  checkpoint : JsonObject := []
  events : List (String × JsonObject) := []
  appliedSignalIds : List SignalId := []
  lastErrorCode : Option String := none
  errorMessage : Option String := none
  retryable : Bool := false
  safeToRetry : Bool := false
  retryAfterSeconds : Option Seconds := none

structure ExecutionLease where
  executionId : ExecutionId
  ownerId : String
  leaseToken : Nat
  attempt : Nat
  leaseExpiresAt : Time
  deriving DecidableEq

inductive StoreError where
  | executionNotFound (executionId : ExecutionId)
  | idempotencyConflict (requestId : RequestId)
  | activeExecutionConflict (subjectRef : String) (existingExecutionId : ExecutionId)
  | toolEffectConflict (effectKey : EffectKey)
  | toolEffectTransition (effectKey : EffectKey) (fromStatus toStatus : ToolEffectStatus)
  | queueOverflow (requestId : RequestId)
  | terminalState (executionId : ExecutionId)
  | fencing (executionId : ExecutionId)
  | valueError (message : String)
  | keyError (name : String)
  /-- `sqlite3.IntegrityError`, with the constraint that failed. -/
  | integrity (constraint : String)
  /-- Whatever the fault hook raises at the named point. -/
  | fault (point : String)
  /-- The claim loop of the model ran out of fuel; no run of the store gets
  here. -/
  | outOfFuel
  deriving DecidableEq

end AnnaAgent.Execution
