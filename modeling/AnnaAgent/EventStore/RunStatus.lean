/-
The status of a run (`event-store/src/lifecycle.ts`, `run-manager.ts`).

`terminalOutcomes` is a plain object.  It is also asked for the names that every
object inherits, and what it inherits is copied to an outcome without a status.
-/

import AnnaAgent.EventStore.Streams

namespace AnnaAgent.EventStore

open Foundation

inductive OutcomeStatus where
  | completed
  | awaitingInput
  | awaitingApproval
  | failed
  | timedOut
  | cancelled
  deriving DecidableEq

structure RunOutcome where
  status : Option OutcomeStatus
  deriving DecidableEq

inductive RunState where
  | queued
  | running
  | ended (status : OutcomeStatus)
  deriving DecidableEq

structure RunView where
  command : StartRun
  status : RunState
  outcome : Option RunOutcome
  deriving DecidableEq

def OutcomeStatus.text : OutcomeStatus → String
  | .completed => "completed"
  | .awaitingInput => "awaiting_input"
  | .awaitingApproval => "awaiting_approval"
  | .failed => "failed"
  | .timedOut => "timed_out"
  | .cancelled => "cancelled"

def OutcomeStatus.isSuspended : OutcomeStatus → Bool
  | .awaitingInput | .awaitingApproval => true
  | _ => false

/-- `run.${outcome.status}`. -/
def OutcomeStatus.eventType (status : OutcomeStatus) : String :=
  "run." ++ status.text

def terminalOutcomes : List (String × OutcomeStatus) :=
  [("run.completed", .completed), ("run.awaiting_input", .awaitingInput),
    ("run.awaiting_approval", .awaitingApproval), ("run.failed", .failed),
    ("run.timed_out", .timedOut), ("run.cancelled", .cancelled)]

def inheritedFunctions : List String :=
  ["constructor", "__defineGetter__", "__defineSetter__", "hasOwnProperty", "__lookupGetter__",
    "__lookupSetter__", "isPrototypeOf", "propertyIsEnumerable", "toString", "valueOf",
    "toLocaleString"]

def inheritedNames : List String :=
  "__proto__" :: inheritedFunctions

def terminalOutcome (type : String) : Option RunOutcome :=
  match terminalOutcomes.lookup type with
  | some status => some { status := some status }
  | none => if type ∈ inheritedNames then some { status := none } else none

def startsRunning (type : String) : Bool :=
  decide (type ∈ ["run.started", "run.resumed", "run.progress"])

def activeRun (command : StartRun) (status : RunState) : RunView :=
  { command, status, outcome := none }

/-- The switch leaves out an outcome without a status. -/
def terminalRun (command : StartRun) (outcome : RunOutcome) : Option RunView :=
  outcome.status.map (fun status => { command, status := .ended status, outcome := some outcome })

def settledRun (command : StartRun) (status : RunState) (suspendedOutcome : Option RunOutcome) :
    Option RunView :=
  match suspendedOutcome with
  | some outcome => terminalRun command outcome
  | none => some (activeRun command status)

def rebuild (command : StartRun) (status : RunState) (suspendedOutcome : Option RunOutcome) :
    List Event → Option RunView
  | [] => settledRun command status suspendedOutcome
  | event :: rest =>
    match terminalOutcome event.type with
    | some outcome =>
      if isTerminalEvent event.type then terminalRun command outcome
      else rebuild command status (some outcome) rest
    | none =>
      if startsRunning event.type then rebuild command .running none rest
      else rebuild command status suspendedOutcome rest

/-- The run as its command and its stream tell it. -/
def InMemoryEventStore.getRun (store : InMemoryEventStore) (scope : ChannelScope)
    (runId : RunId) : Option RunView :=
  match store.getRunCommand scope runId with
  | none => none
  | some command => rebuild command .queued none (store.read scope runId none)

def nextOutcome (standing : Option RunOutcome) (event : Event) : Option RunOutcome :=
  match terminalOutcome event.type with
  | some outcome => some outcome
  | none => if startsRunning event.type then none else standing

def standing (before : Option RunOutcome) (events : List Event) : Option RunOutcome :=
  events.foldl nextOutcome before

def nextActivity (status : RunState) (event : Event) : RunState :=
  match terminalOutcome event.type with
  | some _ => status
  | none => if startsRunning event.type then .running else status

def activity (status : RunState) (events : List Event) : RunState :=
  events.foldl nextActivity status

theorem standing_append (before : Option RunOutcome) (early late : List Event) :
    standing before (early ++ late) = standing (standing before early) late :=
  List.foldl_append

theorem standing_concat (before : Option RunOutcome) (events : List Event) (event : Event) :
    standing before (events ++ [event]) = nextOutcome (standing before events) event := by
  rw [standing_append]
  rfl

theorem rebuild_eq (command : StartRun) (events : List Event)
    (terminated : events.Pairwise (fun earlier _ => isTerminalEvent earlier.type = false))
    (status : RunState) (suspendedOutcome : Option RunOutcome) :
    rebuild command status suspendedOutcome events =
      settledRun command (activity status events) (standing suspendedOutcome events) := by
  induction events generalizing status suspendedOutcome with
  | nil => rfl
  | cons event rest ih =>
    obtain ⟨first, later⟩ := List.pairwise_cons.1 terminated
    change (match terminalOutcome event.type with
      | some outcome =>
        if isTerminalEvent event.type then terminalRun command outcome
        else rebuild command status (some outcome) rest
      | none =>
        if startsRunning event.type then rebuild command .running none rest
        else rebuild command status suspendedOutcome rest) =
      settledRun command (activity (nextActivity status event) rest)
        (standing (nextOutcome suspendedOutcome event) rest)
    unfold nextActivity nextOutcome
    cases isOutcome : terminalOutcome event.type with
    | some outcome =>
      cases terminal : isTerminalEvent event.type with
      | true =>
        have nothing : rest = [] := by
          cases rest with
          | nil => rfl
          | cons next others =>
            have open' := first next List.mem_cons_self
            rw [terminal] at open'
            cases open'
        rw [nothing]
        rfl
      | false => exact ih later status (some outcome)
    | none =>
      cases running : startsRunning event.type with
      | true => exact ih later .running none
      | false => exact ih later status suspendedOutcome

namespace InMemoryEventStore

variable {store : InMemoryEventStore} {scope : ChannelScope} {runId : RunId} {command : StartRun}

theorem getRun_of_claimed (orderly : Orderly store)
    (claimed : store.getRunCommand scope runId = some command) :
    store.getRun scope runId =
      settledRun command (activity .queued (store.streamEvents scope runId))
        (standing none (store.streamEvents scope runId)) := by
  unfold getRun
  rw [claimed, read_all]
  exact rebuild_eq command _ (orderly.terminated scope runId) .queued none

def Reports (store : InMemoryEventStore) (scope : ChannelScope) (runId : RunId)
    (status : OutcomeStatus) : Prop :=
  ∃ run, store.getRun scope runId = some run ∧ run.outcome = some { status := some status }

theorem reports_iff (orderly : Orderly store)
    (claimed : store.getRunCommand scope runId = some command) (status : OutcomeStatus) :
    store.Reports scope runId status ↔
      standing none (store.streamEvents scope runId) = some { status := some status } := by
  unfold Reports
  rw [getRun_of_claimed orderly claimed]
  cases standing none (store.streamEvents scope runId) with
  | none =>
    constructor
    · rintro ⟨run, isRun, isOutcome⟩
      cases isRun
      cases isOutcome
    · intro impossible
      cases impossible
  | some outcome =>
    constructor
    · rintro ⟨run, isRun, isOutcome⟩
      obtain ⟨status', _, sameRun⟩ := Option.map_eq_some_iff.1 isRun
      rw [← sameRun] at isOutcome
      exact isOutcome
    · intro isOutcome
      rw [Option.some.inj isOutcome]
      exact ⟨_, rfl, rfl⟩

end InMemoryEventStore

end AnnaAgent.EventStore
