/-
The goal of a session and its runs: what the user and the supervisor do with
the goal, the admission of its runs, what the runs leave in the event store, and
restarts of the host (`harness-service/src/product-facade.ts`).

`withGoalLock` lets one operation of a session go on at a time, so there is at
most one that is under way; a restart cuts it off.  The steps are what it does
between two awaits, with all events of the evidence read at once.  Every write
of the session store takes effect.  What `runtime.stop` does to the latest run
of a stopped goal is a later step of that run.
-/

import AnnaAgent.Host.WorkbenchSession

namespace AnnaAgent.Host.GoalRuns

open Foundation
open EventStore (OutcomeStatus)

inductive RunEvent where
  /-- A terminal or suspending event, with its reason or error type. -/
  | outcome (status : OutcomeStatus) (reason : Option String)
  | resumed
  | todo (plan : PlanSnapshot)
  | answer
  | other
  deriving DecidableEq

def RunEvent.outcome? : RunEvent → Option (OutcomeStatus × Option String)
  | .outcome status reason => some (status, reason)
  | _ => none

def RunEvent.plan? : RunEvent → Option PlanSnapshot
  | .todo plan => some plan
  | _ => none

/-- `events.find((event) => terminalEvents.has(event.type))`. -/
def terminalEvent (events : List RunEvent) : Option (OutcomeStatus × Option String) :=
  events.findSome? RunEvent.outcome?

def planFromEvents (events : List RunEvent) : Option PlanSnapshot :=
  events.reverse.findSome? RunEvent.plan?

def RunEvent.outcomeAfter (outcome : Option OutcomeStatus) : RunEvent → Option OutcomeStatus
  | .outcome status _ => some status
  | .resumed => none
  | _ => outcome

def currentOutcome (events : List RunEvent) : Option OutcomeStatus :=
  events.foldl RunEvent.outcomeAfter none

structure GoalRequest where
  objective : String
  sourceEventId : String
  maxRuns : Nat
  permissionMode : GoalPermissionMode
  resourceRefs : List String
  objective_ne : objective ≠ ""
  objective_length : objective.length ≤ 8000
  one_le_maxRuns : 1 ≤ maxRuns
  maxRuns_le : maxRuns ≤ goalMaxRunsLimit

def GoalRequest.goal (request : GoalRequest) (goalId timestamp : String) : WorkbenchGoalRecord :=
  { goalId
    objective := request.objective
    status := .active
    maxRuns := request.maxRuns
    runIds := []
    permissionMode := request.permissionMode
    resourceRefs := request.resourceRefs
    sourceEventId := some request.sourceEventId
    lastReason := none
    planProgress := none
    createdAt := timestamp
    updatedAt := timestamp }

inductive GoalLookup where
  | existing (goal : WorkbenchGoalRecord)
  | written (goal : WorkbenchGoalRecord)

def createGoal (request : GoalRequest) (goalId timestamp : String)
    (current : Option WorkbenchGoalRecord) : Except String GoalLookup :=
  match current with
  | some goal =>
    if goal.sourceEventId = some request.sourceEventId then .ok (.existing goal)
    else if goal.status ∈ [.active, .paused, .awaitingReview] then .error "goal_already_active"
    else .ok (.written (request.goal goalId timestamp))
  | none => .ok (.written (request.goal goalId timestamp))

inductive GoalAction where
  | pause
  | resume (maxRuns : Option Nat)
  | stop
  | complete
  deriving DecidableEq

def controlGoal (action : GoalAction) (timestamp : String) (goal : WorkbenchGoalRecord) :
    Except String WorkbenchGoalRecord :=
  match action with
  | .pause =>
    if goal.status ≠ .active then .error "goal_not_active"
    else
      .ok { goal with
        status := .paused
        lastReason := some "user_paused"
        updatedAt := timestamp }
  | .complete =>
    if goal.status ≠ .awaitingReview then .error "goal_not_awaiting_review"
    else
      .ok { goal with
        status := .completed
        lastReason := some "user_confirmed"
        updatedAt := timestamp }
  | .stop =>
    if goal.status ∉ [.active, .paused, .awaitingReview, .budgetExhausted, .failed] then
      .error "goal_not_stoppable"
    else
      .ok { goal with
        status := .stopped
        lastReason := some "user_stopped"
        updatedAt := timestamp }
  | .resume maxRuns =>
    if goal.status ∉ [.paused, .failed, .budgetExhausted] then .error "goal_not_resumable"
    else if maxRuns.any (fun limit => limit < 1 || goalMaxRunsLimit < limit) then
      .error "invalid_max_runs"
    else if maxRuns.getD goal.maxRuns ≤ goal.runIds.length then .error "goal_budget_exhausted"
    else
      .ok { goal with
        status := .active
        maxRuns := maxRuns.getD goal.maxRuns
        lastReason := some "user_resumed"
        updatedAt := timestamp }

/-- What `advanceGoal` writes before it waits, settles or goes on. -/
def decidedGoal (decision : GoalDecision) (progress : Option PlanCounts) (timestamp : String)
    (goal : WorkbenchGoalRecord) : WorkbenchGoalRecord :=
  let counted := progress.map (fun counts => PlanProgress.mk counts.completed counts.total)
  match decision with
  | .wait =>
    if counted = none ∨ goal.planProgress = counted then goal
    else
      { goal with
        planProgress := counted
        updatedAt := timestamp }
  | .continue reason =>
    { goal with
      lastReason := some reason.text
      planProgress := counted.or goal.planProgress
      updatedAt := timestamp }
  | .settle status reason =>
    { goal with
      status
      lastReason := some reason
      planProgress := counted.or goal.planProgress
      updatedAt := timestamp }

def goalSource (goalId : String) (index : Nat) : String :=
  "goal:" ++ goalId ++ ":" ++ toString index

def goalRun (session : WorkbenchSessionRecord) (goal : WorkbenchGoalRecord) (prompt : String)
    (trigger : RunTrigger) (runId timestamp : String) : WorkbenchRunRecord :=
  { runId
    sessionId := session.sessionId
    workspaceId := session.workspaceId
    actorUserId := session.actorUserId
    channelId := session.channelId
    projectId := session.projectId
    parentRunId := none
    surface := session.surface
    prompt
    sourceEventId := goalSource goal.goalId (goal.runIds.length + 1)
    sourceEventDerived := none
    resourceRefs := goal.resourceRefs
    skillId := none
    agentId := none
    modelProfileId := none
    requestedArtifact := none
    conversationId := session.sessionId
    conversationSource := none
    createdAt := timestamp
    updatedAt := timestamp
    admissionStatus := some .pending
    admissionError := none
    permissionMode :=
      if goal.permissionMode = .containedWrite then some .containedWrite else none
    goalId := some goal.goalId
    trigger := some trigger }

def referRun (runId timestamp : String) (goal : WorkbenchGoalRecord) : WorkbenchGoalRecord :=
  { goal with
    runIds := if runId ∈ goal.runIds then goal.runIds else goal.runIds ++ [runId]
    updatedAt := timestamp }

/-- `record.goal?.goal_id !== goal.goal_id ? record : { ...record, goal: … }`. -/
def onGoal (goalId : String) (change : WorkbenchGoalRecord → WorkbenchGoalRecord)
    (session : WorkbenchSessionRecord) : Except SessionStoreError WorkbenchSessionRecord :=
  match session.goal with
  | some goal =>
    if goal.goalId ≠ goalId then .ok session
    else .ok { session with goal := some (change goal) }
  | none => .ok session

/-! ### The host -/

inductive Phase where
  | deciding (goal : WorkbenchGoalRecord) (evidence : GoalRunEvidence)
  | resuming (session : WorkbenchSessionRecord) (goal : WorkbenchGoalRecord)
  | submitting (session : WorkbenchSessionRecord) (goal : WorkbenchGoalRecord) (prompt : String)
      (trigger : RunTrigger)
  | referring (goal : WorkbenchGoalRecord) (run : WorkbenchRunRecord) (created : Bool)
  | checking (run : WorkbenchRunRecord)
  | preparing (run : WorkbenchRunRecord)
  | starting (run : WorkbenchRunRecord)
  | markingStarted (run : WorkbenchRunRecord)
  | markingFailed (run : WorkbenchRunRecord) (failureCode : String)

/-- A resumed goal is looked at before the request is answered. -/
def GoalAction.next (saved : WorkbenchSessionRecord) (patched : WorkbenchGoalRecord) :
    GoalAction → Option Phase
  | .resume _ => some (.resuming saved patched)
  | _ => none

def continueGoal (decision : GoalDecision) (plan : Option PlanSnapshot)
    (saved : WorkbenchSessionRecord) : Option Phase :=
  match decision, saved.goal with
  | .continue reason, some updated =>
    some (.submitting saved updated (continuationPrompt updated plan reason) .goalContinuation)
  | _, _ => none

structure Service where
  state : WorkbenchState
  /-- The events of the runs that the event store has a command of. -/
  events : String → Option (List RunEvent)
  /-- The operation that holds the lock of the session. -/
  busy : Option Phase
  /-- The goal ids that have been given. -/
  goalIds : List String

def initial (state : WorkbenchState) (goalIds : List String) : Service :=
  { state
    events := fun _ => none
    busy := none
    goalIds }

namespace Service

def goal (sessionId : String) (service : Service) : Option WorkbenchGoalRecord :=
  (service.state.getSession sessionId).bind WorkbenchSessionRecord.goal

def readEvents (service : Service) (runId : String) : List RunEvent :=
  (service.events runId).getD []

/-- The run is queued or running. -/
def live (service : Service) (runId : String) : Bool :=
  (service.events runId).any (fun events => currentOutcome events = none)

def latestRun (service : Service) (goal : WorkbenchGoalRecord) : Option WorkbenchRunRecord :=
  goal.runIds.getLast?.bind service.state.getRun

def priorPlan (service : Service) (goal : WorkbenchGoalRecord) : Option PlanSnapshot :=
  (goal.runIds.reverse.drop 1).findSome? (fun runId =>
    (service.state.getRun runId).bind (fun run => planFromEvents (service.readEvents run.runId)))

def goalEvidence (service : Service) (goal : WorkbenchGoalRecord) : GoalRunEvidence :=
  match service.latestRun goal with
  | none =>
    { terminalStatus := none
      admissionError := none
      failureReason := none
      plan := none
      hasFinalText := false }
  | some latest =>
    if latest.admissionStatus = some .failed then
      { terminalStatus := none
        admissionError := some (latest.admissionError.getD "run_admission_failed")
        failureReason := none
        plan := none
        hasFinalText := false }
    else
      let events := service.readEvents latest.runId
      { terminalStatus := (terminalEvent events).map Prod.fst
        admissionError := none
        failureReason := (terminalEvent events).bind (fun terminal =>
          if terminal.1 = .failed then terminal.2 else none)
        plan := (planFromEvents events).or (service.priorPlan goal)
        hasFinalText := events.any (fun event => event = .answer) }

/-- A resumed goal goes on with a new run if its latest run is over. -/
def latestTerminal (service : Service) (goal : WorkbenchGoalRecord) : Bool :=
  (service.latestRun goal).isNone || (service.goalEvidence goal).admissionError.isSome
    || (service.goalEvidence goal).terminalStatus.isSome

def moveTo (service : Service) (phase : Phase) : Service :=
  { service with busy := some phase }

def finish (service : Service) : Service :=
  { service with busy := none }

def restart (service : Service) : Service := service.finish

def submit (service : Service) (goal : WorkbenchGoalRecord) (run : WorkbenchRunRecord) : Service :=
  match createOrGetRun run service.state with
  | (.created run, state) => { service with state }.moveTo (.referring goal run true)
  | (.existing run, state) => { service with state }.moveTo (.referring goal run false)
  | (.conflict, state) => { service with state }.finish

/-- A run that exists already is admitted unless it was or is not to be. -/
def check (service : Service) (run : WorkbenchRunRecord) : Service :=
  if (service.events run.runId).isSome || decide (run.admissionStatus = some .failed) then
    service.finish
  else service.moveTo (.preparing run)

def append (service : Service) (runId : String) (event : RunEvent) : Service :=
  { service with
    events := Function.update service.events runId
      ((service.events runId).map (fun events => events ++ [event])) }

end Service

inductive Event where
  | created (goalId : String)
  | controlled (action : GoalAction) (goalId : String)
  | evidenceRead (goalId : String)
  | ticked (goalId : String)
  | decided (goalId : String)
  | submitted (goalId runId : String)
  | referred (goalId runId : String)
  | checked (runId : String)
  | prepared (runId : String)
  | prepareFailed (runId : String)
  | claimed (runId : String)
  | startReturned (runId : String)
  | startFailed (runId : String)
  | markedStarted (runId : String)
  | markedFailed (runId : String)
  | appended (runId : String) (event : RunEvent)
  | continued (runId : String)
  | crashed
  deriving DecidableEq

/-- The steps of the goal of one session.  Goal ids and run ids are random and
never come twice. -/
inductive Step (sessionId : String) : Service → Event → Service → Prop
  | created {service : Service} {session saved : WorkbenchSessionRecord}
      {goal : WorkbenchGoalRecord} {state : WorkbenchState} (request : GoalRequest)
      (goalId timestamp : String) (idle : service.busy = none)
      (found : service.state.getSession sessionId = some session)
      (fresh : goalId ∉ service.goalIds)
      (unused : ∀ index, service.state.runOfSource sessionId (goalSource goalId index) = none)
      (unowned : ∀ run ∈ service.state.runs, run.goalId ≠ some goalId)
      (written : createGoal request goalId timestamp session.goal = .ok (.written goal))
      (stored : updateSession sessionId (fun record => .ok { record with goal := some goal })
        service.state = .ok (saved, state)) :
      Step sessionId service (.created goalId)
        ({ service with
          state
          goalIds := service.goalIds ++ [goalId] }.moveTo
            (.submitting session goal request.objective .user))
  | controlled {service : Service} {session saved : WorkbenchSessionRecord}
      {goal patched : WorkbenchGoalRecord} {state : WorkbenchState} (action : GoalAction)
      (timestamp : String) (idle : service.busy = none)
      (found : service.state.getSession sessionId = some session)
      (hasGoal : session.goal = some goal)
      (allowed : controlGoal action timestamp goal = .ok patched)
      (stored : updateSession sessionId (fun record => .ok { record with goal := some patched })
        service.state = .ok (saved, state)) :
      Step sessionId service (.controlled action goal.goalId)
        { service with
          state
          busy := action.next saved patched }
  | evidenceRead {service : Service} {session : WorkbenchSessionRecord}
      {goal : WorkbenchGoalRecord} (here : service.busy = some (.resuming session goal)) :
      Step sessionId service (.evidenceRead goal.goalId)
        (if service.latestTerminal goal then
          service.moveTo (.submitting session goal
            (continuationPrompt goal (service.goalEvidence goal).plan .userResumed)
            .goalContinuation)
        else service.finish)
  | ticked {service : Service} {session : WorkbenchSessionRecord} {goal : WorkbenchGoalRecord}
      (idle : service.busy = none) (found : service.state.getSession sessionId = some session)
      (hasGoal : session.goal = some goal) (active : goal.status = .active) :
      Step sessionId service (.ticked goal.goalId)
        (service.moveTo (.deciding goal (service.goalEvidence goal)))
  | decided {service : Service} {goal : WorkbenchGoalRecord} {evidence : GoalRunEvidence}
      {saved : WorkbenchSessionRecord} {state : WorkbenchState} (timestamp : String)
      (here : service.busy = some (.deciding goal evidence))
      (stored : updateSession sessionId
        (onGoal goal.goalId
          (decidedGoal (decideGoal goal evidence) (planProgress evidence.plan) timestamp))
        service.state = .ok (saved, state)) :
      Step sessionId service (.decided goal.goalId)
        { service with
          state
          busy := continueGoal (decideGoal goal evidence) evidence.plan saved }
  | submitted {service : Service} {session : WorkbenchSessionRecord}
      {goal : WorkbenchGoalRecord} {prompt : String} {trigger : RunTrigger}
      (runId timestamp : String)
      (here : service.busy = some (.submitting session goal prompt trigger))
      (unused : runId ∉ service.state.runs.map WorkbenchRunRecord.runId)
      (unclaimed : service.events runId = none) :
      Step sessionId service (.submitted goal.goalId runId)
        (service.submit goal (goalRun session goal prompt trigger runId timestamp))
  | referred {service : Service} {goal : WorkbenchGoalRecord} {run : WorkbenchRunRecord}
      {isNew : Bool} {saved : WorkbenchSessionRecord} {state : WorkbenchState}
      (timestamp : String) (here : service.busy = some (.referring goal run isNew))
      (stored : updateSession sessionId (onGoal goal.goalId (referRun run.runId timestamp))
        service.state = .ok (saved, state)) :
      Step sessionId service (.referred goal.goalId run.runId)
        ({ service with state }.moveTo (if isNew then .preparing run else .checking run))
  | checked {service : Service} {run : WorkbenchRunRecord}
      (here : service.busy = some (.checking run)) :
      Step sessionId service (.checked run.runId) (service.check run)
  | prepared {service : Service} {run : WorkbenchRunRecord}
      (here : service.busy = some (.preparing run)) :
      Step sessionId service (.prepared run.runId) (service.moveTo (.starting run))
  | prepareFailed {service : Service} {run : WorkbenchRunRecord} (failureCode : String)
      (here : service.busy = some (.preparing run)) :
      Step sessionId service (.prepareFailed run.runId)
        (service.moveTo (.markingFailed run failureCode))
  | claimed {service : Service} {run : WorkbenchRunRecord}
      (here : service.busy = some (.starting run)) (unclaimed : service.events run.runId = none) :
      Step sessionId service (.claimed run.runId)
        { service with events := Function.update service.events run.runId (some []) }
  | startReturned {service : Service} {run : WorkbenchRunRecord}
      (here : service.busy = some (.starting run))
      (isClaimed : (service.events run.runId).isSome = true) :
      Step sessionId service (.startReturned run.runId) (service.moveTo (.markingStarted run))
  | startFailed {service : Service} {run : WorkbenchRunRecord} (failureCode : String)
      (here : service.busy = some (.starting run)) :
      Step sessionId service (.startFailed run.runId)
        (service.moveTo (.markingFailed run failureCode))
  | markedStarted {service : Service} {run : WorkbenchRunRecord} {state : WorkbenchState}
      (here : service.busy = some (.markingStarted run))
      (marked : markRunAdmission run.runId .started none service.state = .ok state) :
      Step sessionId service (.markedStarted run.runId) { service with state }.finish
  | markedFailed {service : Service} {run : WorkbenchRunRecord} {failureCode : String}
      {state : WorkbenchState} (here : service.busy = some (.markingFailed run failureCode))
      (marked : markRunAdmission run.runId .failed (some failureCode) service.state = .ok state) :
      Step sessionId service (.markedFailed run.runId) { service with state }.finish
  | appended {service : Service} {events : List RunEvent} (runId : String) (event : RunEvent)
      (isClaimed : service.events runId = some events) (goesOn : currentOutcome events = none)
      (notResumed : event ≠ .resumed) :
      Step sessionId service (.appended runId event) (service.append runId event)
  | continued {service : Service} {events : List RunEvent} {status : OutcomeStatus}
      (runId : String) (isClaimed : service.events runId = some events)
      (hasOutcome : currentOutcome events = some status) (suspended : status.isSuspended = true) :
      Step sessionId service (.continued runId) (service.append runId .resumed)
  | crashed {service : Service} : Step sessionId service .crashed service.restart

end AnnaAgent.Host.GoalRuns
