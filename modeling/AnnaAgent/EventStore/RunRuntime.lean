/-
`DurableRunRuntime` (`event-store/src/run-runtime.ts`) on one event store.

Every `start` and `resume` that is not answered by one in flight begins a run,
a begun run is driven by one call of the kernel, and `settleInterrupted` walks
through the runs of a channel.  Each goes one await at a time: a step makes a
request or goes on with an answer, and other writers call the store in between.
An abort only reaches the kernel, which may do anything.
-/

import AnnaAgent.Foundation.Run
import AnnaAgent.EventStore.RunStatus

namespace AnnaAgent.EventStore

open Foundation

/-- What `createEventId` and `now` give an event. -/
structure Stamp where
  id : EventId
  timestamp : Timestamp

def Stamp.usable (stamp : Stamp) (dates : Dates) (store : InMemoryEventStore)
    (scope : ChannelScope) : Bool :=
  !(stamp.id.toList.all isSpace) && !(stamp.timestamp.toList.all isSpace) &&
    (dates.parse stamp.timestamp).isSome &&
    (store.eventsById.get? (scopedKey scope "event" stamp.id)).isNone

def isSuspendedEvent (type : String) : Bool :=
  type == "run.awaiting_input" || type == "run.awaiting_approval"

def isSuspendedOutcome (outcome : RunOutcome) : Bool :=
  outcome.status.any OutcomeStatus.isSuspended

/-- The switch of `run-runtime.ts`. -/
def outcomeForTerminalEvent (event : Event) : Option OutcomeStatus :=
  terminalOutcomes.lookup event.type

def settledBy (events : List Event) : Option OutcomeStatus :=
  match events.getLast? with
  | none => none
  | some last =>
    if isTerminalEvent last.type || isSuspendedEvent last.type then outcomeForTerminalEvent last
    else none

def runAttribution (command : StartRun) : List (String × Json) :=
  match command.parentRunId with
  | none => []
  | some parentRunId =>
    [("parentRunId", .str parentRunId)] ++ optionalText "parentEventId" command.parentEventId ++
      optionalText "laneId" command.laneId

def runEvent (command : StartRun) (stamp : Stamp) (seq : Nat) (type : String)
    (payload : List (String × Json)) : Event :=
  { id := stamp.id
    workspaceId := command.workspaceId
    channelId := command.channelId
    streamId := command.runId
    seq
    type
    timestamp := stamp.timestamp
    schemaVersion := 1
    payload := .obj (payload ++ runAttribution command) }

/-- `${workspaceId}\u0000${channelId}\u0000${runId}`. -/
def runtimeKey (scope : ChannelScope) (runId : RunId) : String :=
  scope.workspaceId ++ "\x00" ++ scope.channelId ++ "\x00" ++ runId

def keyFor (command : StartRun) : String :=
  runtimeKey command.toChannelScope command.runId

inductive DrivePoint where
  | kernel
  /-- The kernel has returned. -/
  | reading (outcome : OutcomeStatus)
  | settling (outcome : OutcomeStatus) (events : List Event)
  /-- The outcome has been appended with this number. -/
  | appended (outcome : OutcomeStatus) (seq : Nat)
  /-- Inside `catch`. -/
  | recovering
  | failing (events : List Event)
  | resolved (outcome : OutcomeStatus)
  | rejected
  deriving DecidableEq

structure Drive where
  command : StartRun
  point : DrivePoint
  /-- What the kernel returned. -/
  returned : Option OutcomeStatus
  /-- The kernel has appended a terminal or suspension event to the run. -/
  decided : Bool

def Drive.start (command : StartRun) : Drive :=
  { command
    point := .kernel
    returned := none
    decided := false }

def DrivePoint.isSettled : DrivePoint → Bool
  | .resolved _ | .rejected => true
  | _ => false

def Drive.advance (dates : Dates) (store : InMemoryEventStore) (stamp : Stamp) (drive : Drive) :
    Option (InMemoryEventStore × DrivePoint) :=
  let command := drive.command
  let scope := command.toChannelScope
  match drive.point with
  | .kernel => none
  | .reading outcome => some (store, .settling outcome (store.read scope command.runId none))
  | .settling outcome events =>
    match settledBy events with
    | some settled => some (store, .resolved settled)
    | none =>
      if stamp.usable dates store scope then
        match store.append dates scope (runEvent command stamp events.length outcome.eventType
            [("outcome", .str outcome.text)]) with
        | .ok (_, store') => some (store', .appended outcome events.length)
        | .error _ => some (store, .recovering)
      else none
  | .appended outcome _ => some (store, .resolved outcome)
  | .recovering => some (store, .failing (store.read scope command.runId none))
  | .failing events =>
    match settledBy events with
    | some settled => some (store, .resolved settled)
    | none =>
      if stamp.usable dates store scope then
        match store.append dates scope (runEvent command stamp events.length "run.failed"
            [("errorType", .str "runtime_bridge_failed")]) with
        | .ok (_, store') => some (store', .appended .failed events.length)
        | .error _ => some (store, .rejected)
      else none
  | .resolved _ => none
  | .rejected => none

inductive Refusal where
  | store (thrown : Thrown)
  | parentNotClaimed
  | cannotBeRebuilt
  | resumeRequired
  | becameTerminal
  deriving DecidableEq

inductive BeginAnswer where
  /-- The handle of a drive. -/
  | drive (index : Nat)
  /-- A handle whose completion is the durable outcome. -/
  | settled (run : RunView) (outcome : RunOutcome)
  | refused (refusal : Refusal)
  deriving DecidableEq

inductive BeginPoint where
  | checkingParent (parentRunId : RunId)
  | claiming
  | getting
  | got (current : Option RunView)
  | queueing
  | queueRead (events : List Event)
  | gettingQueued
  | gotQueued (queued : Option RunView)
  | answered (answer : BeginAnswer)
  deriving DecidableEq

structure Begin where
  command : StartRun
  allowRunning : Bool
  point : BeginPoint

def Begin.first (command : StartRun) (allowRunning : Bool) : Begin :=
  { command
    allowRunning
    point := match command.parentRunId with
      | none => .claiming
      | some parentRunId => .checkingParent parentRunId }

inductive BeginMove where
  | goes (store : InMemoryEventStore) (point : BeginPoint)
  | drives

def Begin.check (active : OrderedMap String Nat) (begun : Begin) (current : RunView) :
    BeginPoint :=
  match current.outcome with
  | some outcome =>
    if !isSuspendedOutcome outcome || !begun.allowRunning then .answered (.settled current outcome)
    else
      match active.get? (keyFor begun.command) with
      | some index => .answered (.drive index)
      | none => .queueing
  | none =>
    match active.get? (keyFor begun.command) with
    | some index => .answered (.drive index)
    | none =>
      if current.status = .running && !begun.allowRunning then
        .answered (.refused .resumeRequired)
      else .queueing

def Begin.advance (dates : Dates) (store : InMemoryEventStore) (active : OrderedMap String Nat)
    (stamp : Stamp) (begun : Begin) : Option BeginMove :=
  let command := begun.command
  let scope := command.toChannelScope
  match begun.point with
  | .checkingParent parentRunId =>
    match store.getRunCommand scope parentRunId with
    | none => some (.goes store (.answered (.refused .parentNotClaimed)))
    | some _ => some (.goes store .claiming)
  | .claiming =>
    match store.claimStart scope command with
    | .ok (_, store') => some (.goes store' .getting)
    | .error thrown => some (.goes store (.answered (.refused (.store thrown))))
  | .getting => some (.goes store (.got (store.getRun scope command.runId)))
  | .got none => some (.goes store (.answered (.refused .cannotBeRebuilt)))
  | .got (some current) => some (.goes store (begun.check active current))
  | .queueing => some (.goes store (.queueRead (store.read scope command.runId none)))
  | .queueRead events =>
    if events ≠ [] then some (.goes store .gettingQueued)
    else if stamp.usable dates store scope then
      match store.append dates scope (runEvent command stamp 0 "run.queued"
          [("phase", .str "queued")]) with
      | .ok (_, store') => some (.goes store' .gettingQueued)
      | .error thrown => some (.goes store (.answered (.refused (.store thrown))))
    else none
  | .gettingQueued => some (.goes store (.gotQueued (store.getRun scope command.runId)))
  | .gotQueued none => some (.goes store (.answered (.refused .becameTerminal)))
  | .gotQueued (some queued) =>
    if queued.outcome.any (fun outcome => !isSuspendedOutcome outcome) then
      some (.goes store (.answered (.refused .becameTerminal)))
    else some .drives
  | .answered _ => none

inductive SettlePoint where
  | listing
  | walking (rest : List RunId)
  | reading (command : StartRun) (rest : List RunId)
  | settling (command : StartRun) (events : List Event) (rest : List RunId)
  | finished
  | thrown (thrown : Thrown)

structure Settlement where
  scope : ChannelScope
  point : SettlePoint
  settled : List RunId

def Settlement.advance (dates : Dates) (store : InMemoryEventStore) (taken : String → Bool)
    (stamp : Stamp) (settlement : Settlement) : Option (InMemoryEventStore × Settlement) :=
  let scope := settlement.scope
  match settlement.point with
  | .listing => some (store, { settlement with point := .walking (store.activeRunIds scope) })
  | .walking [] => some (store, { settlement with point := .finished })
  | .walking (runId :: rest) =>
    if taken (runtimeKey scope runId) then
      some (store, { settlement with point := .walking rest })
    else
      match store.getRunCommand scope runId with
      | none => some (store, { settlement with point := .walking rest })
      | some command => some (store, { settlement with point := .reading command rest })
  | .reading command rest =>
    some (store, { settlement with
      point := .settling command (store.read scope command.runId none) rest })
  | .settling command events rest =>
    if (settledBy events).isSome then some (store, { settlement with point := .walking rest })
    else if stamp.usable dates store scope then
      match store.append dates scope (runEvent command stamp events.length "run.failed"
          [("errorType", .str "process_restarted")]) with
      | .ok (_, store') =>
        some (store', { settlement with
          point := .walking rest
          settled := settlement.settled ++ [command.runId] })
      | .error .eventSequenceConflictError | .error .terminalEventConflictError =>
        some (store, { settlement with point := .walking rest })
      | .error thrown => some (store, { settlement with point := .thrown thrown })
    else none
  | .finished => none
  | .thrown _ => none

/-! ### The runtime -/

/-- A `start` or `resume` and the begin that answers it. -/
structure RunCall where
  command : StartRun
  allowRunning : Bool
  begun : Nat
  /-- The drives that had been started before the call. -/
  drivesBefore : Nat
  /-- The durable status was suspended when the call was made. -/
  suspended : Bool

structure RunRuntime where
  store : InMemoryEventStore
  active : OrderedMap String Nat
  inFlight : OrderedMap String Nat
  closing : Bool
  begins : List Begin
  drives : List Drive
  settlements : List Settlement
  calls : List RunCall

def RunRuntime.initial : RunRuntime :=
  { store := .empty
    active := .empty
    inFlight := .empty
    closing := false
    begins := []
    drives := []
    settlements := []
    calls := [] }

inductive RuntimeMove where
  | call (command : StartRun) (allowRunning : Bool)
  | beginStep (index : Nat) (stamp : Stamp)
  | clearInFlight (index : Nat)
  | kernelCall (index : Nat) (scope : ChannelScope) (call : EventCall)
  | kernelReturns (index : Nat) (outcome : OutcomeStatus)
  | kernelRejects (index : Nat)
  | driveStep (index : Nat) (stamp : Stamp)
  | clearActive (index : Nat)
  | settleInterrupted (scope : ChannelScope)
  | settleStep (index : Nat) (stamp : Stamp)
  | stop (scope : ChannelScope) (runId : RunId)
  | close
  | write (scope : ChannelScope) (call : EventCall)

/-- What a call leaves, whether it succeeds or throws. -/
def InMemoryEventStore.afterCall (dates : Dates) (scope : ChannelScope)
    (store : InMemoryEventStore) (call : EventCall) : InMemoryEventStore :=
  match store.perform dates scope call with
  | .ok (_, store') => store'
  | .error _ => store

def clearKey (map : OrderedMap String Nat) (key : String) (index : Nat) : OrderedMap String Nat :=
  if map.get? key = some index then map.restrict (fun other => decide (other ≠ key)) else map

def decides (command : StartRun) (store store' : InMemoryEventStore) : Bool :=
  ((store'.streamEvents command.toChannelScope command.runId).drop
      (store.streamEvents command.toChannelScope command.runId).length).any
    (fun event => (outcomeForTerminalEvent event).isSome)

namespace RunRuntime

variable (dates : Dates) (runtime : RunRuntime)

/-- The run is awaiting input or approval. -/
def isSuspendedRun (command : StartRun) : Bool :=
  (runtime.store.getRun command.toChannelScope command.runId).any
    (fun run => run.outcome.any isSuspendedOutcome)

def isTaken (key : String) : Bool :=
  runtime.active.has key || runtime.inFlight.has key

def newCall (command : StartRun) (allowRunning : Bool) (begun : Nat) : RunCall :=
  { command, allowRunning, begun
    drivesBefore := runtime.drives.length
    suspended := runtime.isSuspendedRun command }

def receive (command : StartRun) (allowRunning : Bool) : RunRuntime :=
  if runtime.closing then runtime
  else
    match runtime.inFlight.get? (keyFor command) with
    | some begun =>
      { runtime with calls := runtime.calls ++ [runtime.newCall command allowRunning begun] }
    | none =>
      { runtime with
        begins := runtime.begins ++ [.first command allowRunning]
        inFlight := runtime.inFlight.set (keyFor command) runtime.begins.length
        calls := runtime.calls ++ [runtime.newCall command allowRunning runtime.begins.length] }

def beginStep (index : Nat) (stamp : Stamp) : Option RunRuntime :=
  match runtime.begins[index]? with
  | none => none
  | some begun =>
    match begun.advance dates runtime.store runtime.active stamp with
    | none => none
    | some (.goes store point) =>
      some { runtime with
        store
        begins := runtime.begins.set index { begun with point } }
    | some .drives =>
      some { runtime with
        begins := runtime.begins.set index
          { begun with point := .answered (.drive runtime.drives.length) }
        drives := runtime.drives ++ [.start begun.command]
        active := runtime.active.set (keyFor begun.command) runtime.drives.length }

def clearInFlight (index : Nat) : Option RunRuntime :=
  match runtime.begins[index]? with
  | none => none
  | some begun =>
    match begun.point with
    | .answered _ =>
      some { runtime with inFlight := clearKey runtime.inFlight (keyFor begun.command) index }
    | _ => none

def kernelStep (index : Nat) (next : Drive → InMemoryEventStore × Drive) : Option RunRuntime :=
  match runtime.drives[index]? with
  | none => none
  | some drive =>
    if drive.point = .kernel then
      some { runtime with
        store := (next drive).1
        drives := runtime.drives.set index (next drive).2 }
    else none

def driveStep (index : Nat) (stamp : Stamp) : Option RunRuntime :=
  match runtime.drives[index]? with
  | none => none
  | some drive =>
    match drive.advance dates runtime.store stamp with
    | none => none
    | some (store, point) =>
      some { runtime with
        store
        drives := runtime.drives.set index { drive with point } }

def clearActive (index : Nat) : Option RunRuntime :=
  match runtime.drives[index]? with
  | none => none
  | some drive =>
    if drive.point.isSettled then
      some { runtime with active := clearKey runtime.active (keyFor drive.command) index }
    else none

def settleStep (index : Nat) (stamp : Stamp) : Option RunRuntime :=
  match runtime.settlements[index]? with
  | none => none
  | some settlement =>
    match settlement.advance dates runtime.store runtime.isTaken stamp with
    | none => none
    | some (store, settlement') =>
      some { runtime with
        store
        settlements := runtime.settlements.set index settlement' }

def step : RuntimeMove → Option RunRuntime
  | .call command allowRunning => some (runtime.receive command allowRunning)
  | .beginStep index stamp => runtime.beginStep dates index stamp
  | .clearInFlight index => runtime.clearInFlight index
  | .kernelCall index scope call =>
    runtime.kernelStep index (fun drive =>
      (runtime.store.afterCall dates scope call,
        { drive with
          decided := drive.decided ||
            decides drive.command runtime.store (runtime.store.afterCall dates scope call) }))
  | .kernelReturns index outcome =>
    runtime.kernelStep index (fun drive =>
      (runtime.store, { drive with
        point := .reading outcome
        returned := some outcome }))
  | .kernelRejects index =>
    runtime.kernelStep index (fun drive => (runtime.store, { drive with point := .recovering }))
  | .driveStep index stamp => runtime.driveStep dates index stamp
  | .clearActive index => runtime.clearActive index
  | .settleInterrupted scope =>
    if runtime.closing then some runtime
    else some { runtime with
      settlements := runtime.settlements ++ [{ scope, point := .listing, settled := [] }] }
  | .settleStep index stamp => runtime.settleStep dates index stamp
  | .stop _ _ => some runtime
  | .close => some { runtime with closing := true }
  | .write scope call => some { runtime with store := runtime.store.afterCall dates scope call }

end RunRuntime

def RunRuntime.Step (dates : Dates) (before : RunRuntime) (move : RuntimeMove) (after : RunRuntime) : Prop :=
  before.step dates move = some after

namespace RunRuntime

/-- The state after moves, of which those that cannot be made are left out. -/
def finish (dates : Dates) (runtime : RunRuntime) : List RuntimeMove → RunRuntime
  | [] => runtime
  | move :: rest => ((runtime.step dates move).getD runtime).finish dates rest

def trace (dates : Dates) (runtime : RunRuntime) :
    List RuntimeMove → List (Move RunRuntime RuntimeMove)
  | [] => []
  | move :: rest =>
    match runtime.step dates move with
    | none => runtime.trace dates rest
    | some after => ⟨runtime, move, after⟩ :: after.trace dates rest

theorem run_trace (dates : Dates) (runtime : RunRuntime) (moves : List RuntimeMove) :
    Run (Step dates) runtime (runtime.trace dates moves) (runtime.finish dates moves) := by
  induction moves generalizing runtime with
  | nil => exact .nil runtime
  | cons move rest ih =>
    unfold trace finish
    cases isStep : runtime.step dates move with
    | none => exact ih runtime
    | some after => exact .cons isStep (ih after)

end RunRuntime

def fixedDates : Dates :=
  { parse := fun _ => some 0
    toISOString := fun _ => some "now" }

def office : ChannelScope :=
  { workspaceId := "workspace"
    channelId := "office" }

def draftRun : StartRun :=
  { office with
    commandId := "command"
    runId := "draft"
    parentRunId := none
    parentEventId := none
    laneId := none
    details := [] }

def draftEvent (id : EventId) (seq : Nat) (type : String) : Event :=
  runEvent draftRun { id, timestamp := "now" } seq type []

def stamped (id : EventId) : Stamp :=
  { id, timestamp := "now" }

/-- A start up to the call of the kernel. -/
def startDraft : List RuntimeMove :=
  .call draftRun false :: List.replicate 4 (.beginStep 0 (stamped "")) ++
    [.beginStep 0 (stamped "queued"), .beginStep 0 (stamped ""), .beginStep 0 (stamped ""),
      .clearInFlight 0]

def askForInput : List RuntimeMove :=
  [.kernelCall 0 office (.append (draftEvent "asked" 1 "run.awaiting_input")),
    .kernelReturns 0 .awaitingInput, .driveStep 0 (stamped ""), .driveStep 0 (stamped ""),
    .clearActive 0]

end AnnaAgent.EventStore
