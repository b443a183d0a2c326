/-
A run of the Pi loop kernel and its cancellation
(`pi-loop-kernel/src/pi-loop-kernel.ts`).

`start` goes from one await to the next.  A cancellation reaches it through one
of three maps: the aborts that wait for the preparation, the preparation itself,
and the run once the agent drives it.

The agent is not part of the repository.  What is used of it is that it starts
no model request after it has been aborted.  The signal of the call is never
aborted here.
-/

import AnnaAgent.Foundation.Run

namespace AnnaAgent.Pi

open Foundation

inductive PreparationStopReason where
  | cancelled
  | timedOut
  deriving DecidableEq

inductive Status where
  | cancelled
  | timedOut
  | failed
  | completed
  | awaitingApproval
  deriving DecidableEq

def PreparationStopReason.status : PreparationStopReason → Status
  | .cancelled => .cancelled
  | .timedOut => .timedOut

inductive Outcome where
  | returned (status : Status)
  | rejected
  deriving DecidableEq

/-- What `start` waits for. -/
inductive Phase where
  | reading
  /-- `run.started` is appended. -/
  | recording
  | rereading
  | preparing
  | readingPrepared
  /-- A receipt of the prepared context is appended. -/
  | receipting
  | readingReady
  /-- The end of a stopped preparation is appended. -/
  | stopping (reason : PreparationStopReason)
  /-- `run.timed_out` is appended before the agent drives. -/
  | expiring
  | driving
  | finishing (status : Status)
  | ended (outcome : Outcome)
  deriving DecidableEq

structure StartRun where
  /-- `memoryPolicy.read` is `channel`. -/
  readsChannel : Bool
  hasLoader : Bool
  hasWallTime : Bool

structure Kernel where
  phase : Phase
  /-- The entry in `pendingPreparationAborts`, and whether it is aborted. -/
  pendingAbort : Option Bool
  /-- The entry in `preparations`, and why it was stopped. -/
  preparation : Option (Option PreparationStopReason)
  /-- The entry in `runs`. -/
  registered : Bool
  cancelled : Bool
  timedOut : Bool
  sinkFailed : Bool
  agentAborted : Bool
  /-- The wall time has run out. -/
  expired : Bool

/-- Why the last message of the model stopped. -/
inductive MessageStop where
  | aborted
  | error
  | other
  deriving DecidableEq

structure AgentEnd where
  hasThrown : Bool
  awaitsApproval : Bool
  lastStopReason : Option MessageStop

def started (command : StartRun) : Kernel :=
  { phase := .reading
    pendingAbort := if command.readsChannel then some false else none
    preparation := none
    registered := false
    cancelled := false
    timedOut := false
    sinkFailed := false
    agentAborted := false
    expired := false }

namespace Kernel

def close (kernel : Kernel) (outcome : Outcome) : Kernel :=
  { kernel with
    phase := .ended outcome
    pendingAbort := none
    preparation := none
    registered := false }

/-- `abort(runId)`. -/
def abort (kernel : Kernel) : Kernel :=
  match kernel.preparation, kernel.pendingAbort with
  | some reason, _ => { kernel with preparation := some (some (reason.getD .cancelled)) }
  | none, some _ => { kernel with pendingAbort := some true }
  | none, none =>
    if kernel.registered then { kernel with cancelled := true, agentAborted := true }
    else kernel

/-- The outcome of a run without an override. -/
def outcome (kernel : Kernel) (lastStopReason : Option MessageStop) : Status :=
  if kernel.cancelled then .cancelled
  else if kernel.timedOut then .timedOut
  else if lastStopReason = some .aborted then .cancelled
  else if lastStopReason = some .error then .failed
  else .completed

/-- The run is registered, and the agent drives it unless it is over already. -/
def drive (command : StartRun) (kernel : Kernel) : Kernel :=
  let entered :=
    { kernel with
      pendingAbort := none
      preparation := none
      registered := true
      cancelled := decide (kernel.pendingAbort = some true)
      timedOut := command.hasWallTime && kernel.expired }
  { entered with
    phase :=
      if entered.cancelled || entered.timedOut then .finishing (entered.outcome none)
      else .driving }

/-- An error before the agent drives. -/
def fail (kernel : Kernel) : Kernel :=
  match kernel.preparation with
  | some (some reason) => { kernel with phase := .stopping reason }
  | _ => kernel.close .rejected

/-- What follows when the history is known. -/
def prepare (command : StartRun) (kernel : Kernel) : Kernel :=
  if command.readsChannel = false then kernel.drive command
  else if command.hasLoader = false then kernel.close .rejected
  else if command.hasWallTime = true ∧ kernel.expired = true then { kernel with phase := .expiring }
  else
    { kernel with
      phase := .preparing
      preparation := some (if kernel.pendingAbort = some true then some .cancelled else none) }

/-- The preparation goes on unless it has been stopped. -/
def goOn (kernel next : Kernel) : Kernel :=
  match kernel.preparation with
  | some (some reason) => { kernel with phase := .stopping reason }
  | _ => next

/-- The prepared context is complete. -/
def enter (command : StartRun) (kernel : Kernel) : Kernel :=
  if command.hasWallTime = true ∧ kernel.expired = true then { kernel with phase := .expiring }
  else kernel.drive command

def finish (kernel : Kernel) (agent : AgentEnd) : Kernel :=
  if kernel.sinkFailed then kernel.close .rejected
  else if agent.hasThrown then
    { kernel with
      phase := .finishing
        (if kernel.cancelled then .cancelled else if kernel.timedOut then .timedOut else .failed) }
  else if agent.awaitsApproval = true ∧ kernel.cancelled = false ∧ kernel.timedOut = false then
    { kernel with phase := .finishing .awaitingApproval }
  else { kernel with phase := .finishing (kernel.outcome agent.lastStopReason) }

end Kernel

inductive Event where
  /-- What `start` waits for has come. -/
  | advanced
  | failed
  /-- The agent starts a model request. -/
  | requested
  | sinkFailed
  | budgetSpent
  | agentEnded
  | expired
  | timerFired
  | aborted
  deriving DecidableEq

inductive Step (command : StartRun) : Kernel → Event → Kernel → Prop
  | recordStart {kernel : Kernel} (here : kernel.phase = .reading) :
      Step command kernel .advanced { kernel with phase := .recording }
  /-- The start has been recorded by an earlier attempt. -/
  | restored {kernel : Kernel} (here : kernel.phase = .reading) :
      Step command kernel .advanced (kernel.prepare command)
  | recorded {kernel : Kernel} (here : kernel.phase = .recording) :
      Step command kernel .advanced { kernel with phase := .rereading }
  | reread {kernel : Kernel} (here : kernel.phase = .rereading) :
      Step command kernel .advanced (kernel.prepare command)
  | unprepared {kernel : Kernel}
      (here : kernel.phase = .reading ∨ kernel.phase = .recording ∨ kernel.phase = .rereading) :
      Step command kernel .failed (kernel.close .rejected)
  | prepared {kernel : Kernel} (here : kernel.phase = .preparing) :
      Step command kernel .advanced (kernel.goOn { kernel with phase := .readingPrepared })
  | receipts {kernel : Kernel}
      (here : kernel.phase = .readingPrepared ∨ kernel.phase = .receipting) :
      Step command kernel .advanced (kernel.goOn { kernel with phase := .receipting })
  | receipted {kernel : Kernel}
      (here : kernel.phase = .readingPrepared ∨ kernel.phase = .receipting) :
      Step command kernel .advanced (kernel.goOn { kernel with phase := .readingReady })
  | ready {kernel : Kernel} (here : kernel.phase = .readingReady) :
      Step command kernel .advanced (kernel.goOn (kernel.enter command))
  | preparationFailed {kernel : Kernel}
      (here : kernel.phase = .preparing ∨ kernel.phase = .readingPrepared ∨
        kernel.phase = .receipting ∨ kernel.phase = .readingReady ∨ kernel.phase = .expiring) :
      Step command kernel .failed kernel.fail
  | stopped {kernel : Kernel} {reason : PreparationStopReason}
      (here : kernel.phase = .stopping reason) :
      Step command kernel .advanced (kernel.close (.returned reason.status))
  | expiredEarly {kernel : Kernel} (here : kernel.phase = .expiring) :
      Step command kernel .advanced (kernel.close (.returned .timedOut))
  | requested {kernel : Kernel} (here : kernel.phase = .driving)
      (goesOn : kernel.agentAborted = false) : Step command kernel .requested kernel
  | sinkFailed {kernel : Kernel} (here : kernel.phase = .driving) :
      Step command kernel .sinkFailed
        { kernel with sinkFailed := true, agentAborted := true }
  | budgetSpent {kernel : Kernel} (here : kernel.phase = .driving) :
      Step command kernel .budgetSpent { kernel with timedOut := true }
  | agentEnded {kernel : Kernel} (agent : AgentEnd) (here : kernel.phase = .driving) :
      Step command kernel .agentEnded (kernel.finish agent)
  | finished {kernel : Kernel} {status : Status} (here : kernel.phase = .finishing status) :
      Step command kernel .advanced (kernel.close (.returned status))
  | unfinished {kernel : Kernel}
      (here : (∃ status, kernel.phase = .finishing status) ∨
        ∃ reason, kernel.phase = .stopping reason) :
      Step command kernel .failed (kernel.close .rejected)
  | expired {kernel : Kernel} (limited : command.hasWallTime = true)
      (goesOn : kernel.expired = false) :
      Step command kernel .expired { kernel with expired := true }
  | preparationTimer {kernel : Kernel} (isExpired : kernel.expired = true)
      (here : kernel.preparation = some none) :
      Step command kernel .timerFired { kernel with preparation := some (some .timedOut) }
  | wallTimer {kernel : Kernel} (isExpired : kernel.expired = true)
      (here : kernel.phase = .driving) :
      Step command kernel .timerFired { kernel with timedOut := true, agentAborted := true }
  | aborted {kernel : Kernel} : Step command kernel .aborted kernel.abort

end AnnaAgent.Pi
