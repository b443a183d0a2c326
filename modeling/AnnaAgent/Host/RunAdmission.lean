/-
Submitting a workbench run: any number of posts of the same run, the admission
of the run that the first of them creates, and restarts of the host
(`harness-service/src/product-facade.ts`).

A post is known by the fresh run id that it would give to the run.  The steps
are what a post does between two awaits.  A write of the session store takes
effect or fails as a whole; a restart forgets everything but the records, the
runs claimed in the event store, and what has been answered.
-/

import AnnaAgent.Host.WorkbenchSession

namespace AnnaAgent.Host.Admission

open Foundation

/-- How an admission has ended for those who wait for it.  A failure that
follows a failed write of the session store is told apart. -/
inductive Outcome where
  | ok
  | failed (statusCode : Nat) (code : String)
  | persistFailed (statusCode : Nat) (code : String)
  deriving DecidableEq

inductive Answer where
  | accepted (runId : String)
  | refused (statusCode : Nat) (code : String)
  | persistFailed (statusCode : Nat) (code : String)
  deriving DecidableEq

def Outcome.answer (runId : String) : Outcome → Answer
  | .ok => .accepted runId
  | .failed statusCode code => .refused statusCode code
  | .persistFailed statusCode code => .persistFailed statusCode code

/-- What is thrown before or by `runtime.start`. -/
inductive StartError where
  | http (code : String)
  | modelNotConfigured
  | other
  deriving DecidableEq

def StartError.failureCode : StartError → String
  | .http code => code
  | .modelNotConfigured => "model_not_configured"
  | .other => "run_admission_failed"

/-- What `startWorkbenchRun` throws in its place. -/
def StartError.outcome : StartError → Outcome
  | .modelNotConfigured => .failed 409 "model_not_configured"
  | _ => .failed 503 "harness_unavailable"

inductive Phase where
  | lookingUp (run : WorkbenchRunRecord)
  | preparing
  | starting
  | markingStarted
  | markingFailed (recorded : String) (outcome : Outcome)
  | settling (outcome : Outcome) (answer : Answer)
  | readingEvents (found : WorkbenchRunRecord)
  | deciding (found : WorkbenchRunRecord) (canonical : Bool)
  | awaiting (runId : String)
  | rereading (runId : String)

/-- The run has been created by this post and its admission is not recorded. -/
def Phase.unmarked : Phase → Bool
  | .preparing | .starting | .markingStarted | .markingFailed _ _ => true
  | _ => false

structure Service where
  state : WorkbenchState
  /-- The keys of `pendingAdmissions`. -/
  pending : String → Bool
  /-- The promises of admissions that have been resolved. -/
  outcomes : String → Option Outcome
  /-- The runs that the event store has a command of. -/
  claimed : String → Bool
  /-- The run ids that `runtime.start` has been called with. -/
  started : List String
  posts : String → Option Phase
  answers : List (String × Answer)

def initial (state : WorkbenchState) : Service :=
  { state
    pending := fun _ => false
    outcomes := fun _ => none
    claimed := fun _ => false
    started := []
    posts := fun _ => none
    answers := [] }

namespace Service

def moveTo (service : Service) (id : String) (phase : Phase) : Service :=
  { service with posts := Function.update service.posts id (some phase) }

def reply (service : Service) (id : String) (answer : Answer) : Service :=
  { service with
    posts := Function.update service.posts id none
    answers := service.answers ++ [(id, answer)] }

def lookUp (service : Service) (id : String) (run : WorkbenchRunRecord) : Service :=
  match createOrGetRun run service.state with
  | (.created _, state) =>
    { service with
      state
      pending := Function.update service.pending id true }.moveTo id .preparing
  | (.existing found, state) => { service with state }.moveTo id (.readingEvents found)
  | (.conflict, state) => { service with state }.reply id (.refused 409 "run_conflict")

/-- The answer to a post of a run that exists already. -/
def decide (service : Service) (id : String) (found : WorkbenchRunRecord) (canonical : Bool) :
    Service :=
  if canonical then service.reply id (.accepted found.runId)
  else
    match found.admissionStatus with
    | some .failed =>
      service.reply id (.refused 409 (found.admissionError.getD "run_admission_failed"))
    | some .pending =>
      if service.pending found.runId then service.moveTo id (.awaiting found.runId)
      else service.reply id (.refused 409 "run_admission_pending")
    | _ => service.moveTo id (.rereading found.runId)

/-- `completeRunAdmission`, `endRunAdmission` and the answer of the post. -/
def settle (service : Service) (id : String) (outcome : Outcome) (answer : Answer) : Service :=
  { service with
    pending := Function.update service.pending id false
    outcomes := Function.update service.outcomes id (some outcome) }.reply id answer

def restart (service : Service) : Service :=
  { service with
    pending := fun _ => false
    outcomes := fun _ => none
    posts := fun _ => none }

end Service

/-- A record that a post of the request would create. -/
structure Candidate (request run : WorkbenchRunRecord) : Prop where
  identity : sameRunIdentity run request = true
  source : run.sourceEventId = request.sourceEventId
  pending : run.admissionStatus = some .pending

inductive Event where
  | posted (id : String)
  | lookedUp (id : String)
  | lookupFailed (id : String)
  | prepared (id : String)
  | prepareFailed (id : String) (error : StartError)
  | claimed (id : String)
  | startReturned (id : String)
  | startFailed (id : String) (error : StartError)
  | markedStarted (id : String)
  | markStartedFailed (id : String)
  | markedFailed (id : String)
  | markFailedFailed (id : String)
  | settled (id : String)
  | eventsRead (id : String)
  | decided (id : String)
  | outcomeSeen (id : String)
  | reread (id : String)
  | crashed
  deriving DecidableEq

/-- The steps of the posts of one request.  Run ids are random and never come
twice. -/
inductive Step (request : WorkbenchRunRecord) : Service → Event → Service → Prop
  | posted {service : Service} (run : WorkbenchRunRecord) (candidate : Candidate request run)
      (unused : run.runId ∉ service.state.runs.map WorkbenchRunRecord.runId)
      (fresh : service.posts run.runId = none) :
      Step request service (.posted run.runId) (service.moveTo run.runId (.lookingUp run))
  | lookedUp {service : Service} {id : String} {run : WorkbenchRunRecord}
      (here : service.posts id = some (.lookingUp run)) :
      Step request service (.lookedUp id) (service.lookUp id run)
  | lookupFailed {service : Service} {id : String} {run : WorkbenchRunRecord}
      (here : service.posts id = some (.lookingUp run)) :
      Step request service (.lookupFailed id)
        (service.reply id (.persistFailed 500 "product_host_internal_error"))
  | prepared {service : Service} {id : String} (here : service.posts id = some .preparing) :
      Step request service (.prepared id)
        ({ service with started := service.started ++ [id] }.moveTo id .starting)
  | prepareFailed {service : Service} {id : String} (error : StartError)
      (here : service.posts id = some .preparing) :
      Step request service (.prepareFailed id error)
        (service.moveTo id (.markingFailed error.failureCode error.outcome))
  | claimed {service : Service} {id : String} (here : service.posts id = some .starting) :
      Step request service (.claimed id)
        { service with claimed := Function.update service.claimed id true }
  | startReturned {service : Service} {id : String} (here : service.posts id = some .starting)
      (isClaimed : service.claimed id = true) :
      Step request service (.startReturned id) (service.moveTo id .markingStarted)
  | startFailed {service : Service} {id : String} (error : StartError)
      (here : service.posts id = some .starting) :
      Step request service (.startFailed id error)
        (service.moveTo id (.markingFailed error.failureCode error.outcome))
  | markedStarted {service : Service} {id : String} {state : WorkbenchState}
      (here : service.posts id = some .markingStarted)
      (marked : markRunAdmission id .started none service.state = .ok state) :
      Step request service (.markedStarted id)
        ({ service with state }.moveTo id (.settling .ok (.accepted id)))
  | markStartedFailed {service : Service} {id : String}
      (here : service.posts id = some .markingStarted) :
      Step request service (.markStartedFailed id)
        (service.moveTo id
          (.markingFailed StartError.other.failureCode (.persistFailed 503 "harness_unavailable")))
  | markedFailed {service : Service} {id recorded : String} {outcome : Outcome}
      {state : WorkbenchState} (here : service.posts id = some (.markingFailed recorded outcome))
      (marked : markRunAdmission id .failed (some recorded) service.state = .ok state) :
      Step request service (.markedFailed id)
        ({ service with state }.moveTo id (.settling outcome (outcome.answer id)))
  | markFailedFailed {service : Service} {id recorded : String} {outcome : Outcome}
      (here : service.posts id = some (.markingFailed recorded outcome)) :
      Step request service (.markFailedFailed id)
        (service.moveTo id (.settling (.persistFailed 503 "harness_unavailable")
          (.persistFailed 500 "product_host_internal_error")))
  | settled {service : Service} {id : String} {outcome : Outcome} {answer : Answer}
      (here : service.posts id = some (.settling outcome answer)) :
      Step request service (.settled id) (service.settle id outcome answer)
  | eventsRead {service : Service} {id : String} {found : WorkbenchRunRecord}
      (here : service.posts id = some (.readingEvents found)) :
      Step request service (.eventsRead id)
        (service.moveTo id (.deciding found (service.claimed found.runId)))
  | decided {service : Service} {id : String} {found : WorkbenchRunRecord} {canonical : Bool}
      (here : service.posts id = some (.deciding found canonical)) :
      Step request service (.decided id) (service.decide id found canonical)
  | outcomeSeen {service : Service} {id runId : String} {outcome : Outcome}
      (here : service.posts id = some (.awaiting runId))
      (resolved : service.outcomes runId = some outcome) :
      Step request service (.outcomeSeen id) (service.reply id (outcome.answer runId))
  | reread {service : Service} {id runId : String}
      (here : service.posts id = some (.rereading runId)) :
      Step request service (.reread id) (service.reply id (.accepted runId))
  | crashed {service : Service} : Step request service .crashed service.restart

end AnnaAgent.Host.Admission
