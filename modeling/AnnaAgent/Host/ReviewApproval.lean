/-
The review approval service: requests for an owner's decision, the owner's
decisions, and the log file that keeps both.

One service runs at a time on a log file.  Its calls take turns at every
`await`; what a call does between two of them is one step.  A restart, whether
planned or after a crash, forgets everything but the log.
-/

import AnnaAgent.Foundation.Json
import AnnaAgent.Foundation.OrderedMap
import AnnaAgent.Foundation.Run
import AnnaAgent.EventStore.Contracts

namespace AnnaAgent.Host

open Foundation
open EventStore (isSpace)

/-- `text.trim() === ""`. -/
def isBlank (text : String) : Bool := text.toList.all isSpace

inductive ReviewApprovalAction where
  | confirmMemoryCandidate
  | approveLane
  | approveEffect
  deriving DecidableEq

def ReviewApprovalAction.text : ReviewApprovalAction → String
  | .confirmMemoryCandidate => "confirm_memory_candidate"
  | .approveLane => "approve_lane"
  | .approveEffect => "approve_effect"

def reviewApprovalActions : List ReviewApprovalAction :=
  [.confirmMemoryCandidate, .approveLane, .approveEffect]

def isReviewApprovalAction : Option Json → Option ReviewApprovalAction
  | some (.str text) => reviewApprovalActions.find? (fun action => action.text = text)
  | _ => none

structure ReviewApprovalRequest where
  requestId : String
  fingerprint : String
  ownerId : String
  action : ReviewApprovalAction
  subject : Json
  createdAt : String
  deriving DecidableEq

structure ReviewApprovalDecision where
  requestId : String
  fingerprint : String
  ownerId : String
  approved : Bool
  actorId : String
  decidedAt : String
  deriving DecidableEq

inductive ReviewApprovalRecord where
  | request (request : ReviewApprovalRequest)
  | decision (decision : ReviewApprovalDecision)
  deriving DecidableEq

structure ReviewApprovalState where
  requests : OrderedMap String ReviewApprovalRequest
  decisions : OrderedMap String ReviewApprovalDecision

def emptyState : ReviewApprovalState :=
  { requests := .empty
    decisions := .empty }

def ReviewApprovalState.put (state : ReviewApprovalState) :
    ReviewApprovalRecord → ReviewApprovalState
  | .request request => { state with requests := state.requests.set request.fingerprint request }
  | .decision decision =>
    { state with decisions := state.decisions.set decision.fingerprint decision }

/-- What the file holds, in order: the whole text of a record, a text that was
cut off, or the end of a line. -/
inductive Chunk where
  | text (record : ReviewApprovalRecord)
  | part
  | newline
  deriving DecidableEq

/-- How much of an appended line reached the file. -/
inductive Written where
  | nothing
  | part
  | text
  | line
  deriving DecidableEq

def Written.chunks (record : ReviewApprovalRecord) : Written → List Chunk
  | .nothing => []
  | .part => [.part]
  | .text => [.text record]
  | .line => [.text record, .newline]

def Written.whole : Written → Bool
  | .nothing | .part => false
  | .text | .line => true

def readLines (state : ReviewApprovalState) : List Chunk → Option ReviewApprovalState
  | [] => some state
  | .newline :: rest => readLines state rest
  | [.text record] => some (state.put record)
  | .text record :: .newline :: rest => readLines (state.put record) rest
  | .text _ :: .text _ :: _ => none
  | .text _ :: .part :: _ => none
  | .part :: _ => none

/-- `DurableReviewApprovalLog.read`; a file that is missing reads as empty. -/
def read (content : List Chunk) : Option ReviewApprovalState :=
  readLines emptyState content

structure Refusal where
  status : Nat
  code : String

def ownerHeaderMatches (header : Option String) (ownerId : String) : Bool :=
  header = some ownerId

def nonBlankField (value : Json) (key : String) : Bool :=
  match value.get? key with
  | some (.str text) => !isBlank text
  | _ => false

def validSubject (action : ReviewApprovalAction) (subject : Json) : Bool :=
  if action = .approveEffect then nonBlankField subject "effectKey"
  else
    nonBlankField subject "traceId" &&
      match subject.get? (if action = .approveLane then "lane" else "candidate") with
      | some item => item.isRecord && nonBlankField item "id"
      | none => false

def parseDecisionRequest (input : Json) (ownerId : String) :
    Except Refusal (ReviewApprovalAction × Json) :=
  match input with
  | .obj fields =>
    if input.get? "ownerId" ≠ some (.str ownerId) then
      .error ⟨403, "owner_identity_mismatch"⟩
    else
      match isReviewApprovalAction (input.get? "action") with
      | none => .error ⟨400, "invalid_review_approval_action"⟩
      | some action =>
        let subject : Json :=
          .obj (fields.filter (fun field => field.1 ≠ "ownerId" && field.1 ≠ "action"))
        if validSubject action subject then .ok (action, subject)
        else .error ⟨400, "invalid_review_approval_subject"⟩
  | _ => .error ⟨403, "owner_identity_mismatch"⟩

/-- `POST /requests/:id/decision` up to the reading of the log.  No `requestId`
stands for a path segment that does not decode. -/
def parseOwnerDecision (ownerId : String) (header : Option String) (body : Json)
    (requestId : Option String) : Except Refusal (String × Bool) :=
  if !ownerHeaderMatches header ownerId then .error ⟨403, "owner_identity_mismatch"⟩
  else
    match body.get? "approved" with
    | some (.bool approved) =>
      if body.get? "ownerId" ≠ some (.str ownerId) then .error ⟨400, "invalid_owner_decision"⟩
      else if body.get? "actorId" ≠ none && body.get? "actorId" ≠ some (.str ownerId) then
        .error ⟨400, "invalid_owner_decision"⟩
      else
        match requestId with
        | none => .error ⟨400, "invalid_request_id"⟩
        | some requestId => .ok (requestId, approved)
    | _ => .error ⟨400, "invalid_owner_decision"⟩

def fingerprintText (ownerId : String) (action : ReviewApprovalAction) (subject : Json) : String :=
  Json.stableJson (.obj [("ownerId", .str ownerId), ("action", .str action.text),
    ("subject", subject)])

inductive WaitError where
  | timedOut (requestId : String)
  | closed
  | storeFailed
  deriving DecidableEq

abbrev Outcome := Except WaitError ReviewApprovalDecision

/-- Where a call of `waitForDecision` stands. -/
inductive WaitPhase where
  | reading
  | appending
  | appended (ok : Bool)
  | rereading
  | returned
  | finished (outcome : Outcome)

structure Wait where
  action : ReviewApprovalAction
  subject : Json
  fingerprint : String
  phase : WaitPhase
  request : Option ReviewApprovalRequest
  /-- `decisionPromise`, once it is settled. -/
  promise : Option Outcome

/-- What `await waitForDecision(…)` gives. -/
def Wait.outcome (wait : Wait) : Option Outcome :=
  match wait.phase with
  | .finished outcome => some outcome
  | .returned => wait.promise
  | _ => none

/-- A `POST /decisions` that awaits a call of `waitForDecision`. -/
structure Caller where
  fingerprint : String
  wait : Nat
  answered : Bool

/-- Where a `POST /requests/:id/decision` stands. -/
inductive DeciderPhase where
  | reading (requestId : String) (approved : Bool)
  | appending (decision : ReviewApprovalDecision)
  | appended (decision : ReviewApprovalDecision) (ok : Bool)
  | answered

inductive Writer where
  | wait (index : Nat)
  | decider (index : Nat)

/-- A response with status 200 that reports a decision. -/
structure Report where
  fingerprint : String
  decision : ReviewApprovalDecision

/-- The log file, the memory of the running service, and a record of the
request ids issued and the decisions reported so far. -/
structure Service where
  content : List Chunk
  ownerId : String
  waits : List Wait
  callers : List Caller
  deciders : List DeciderPhase
  pendingWaiters : OrderedMap String Nat
  inFlight : OrderedMap String Nat
  /-- `writeChain`: the appends that have not been carried out. -/
  writes : List (Writer × ReviewApprovalRecord)
  issued : List (String × String)
  reports : List Report

def initial (ownerId : String) : Service :=
  { content := []
    ownerId := ownerId
    waits := []
    callers := []
    deciders := []
    pendingWaiters := .empty
    inFlight := .empty
    writes := []
    issued := []
    reports := [] }

def restart (ownerId : String) (service : Service) : Service :=
  { initial ownerId with
    content := service.content
    issued := service.issued
    reports := service.reports }

/-- A promise keeps its first outcome. -/
def Wait.settle (outcome : Outcome) (wait : Wait) : Wait :=
  { wait with promise := some (wait.promise.getD outcome) }

/-- `pendingWaiters.get(requestId)?.resolve(decision)`, or `reject(error)`. -/
def settleWaiter (requestId : String) (outcome : Outcome) (service : Service) : Service :=
  match service.pendingWaiters.get? requestId with
  | none => service
  | some index =>
    { service with
      pendingWaiters := service.pendingWaiters.restrict (fun key => key ≠ requestId)
      waits := service.waits.modify index (Wait.settle outcome) }

def setWait (index : Nat) (change : Wait → Wait) (service : Service) : Service :=
  { service with waits := service.waits.modify index change }

def report (fingerprint : String) (decision : ReviewApprovalDecision) (service : Service) :
    Service :=
  { service with reports := service.reports ++ [⟨fingerprint, decision⟩] }

def moveTo (phase : WaitPhase) (wait : Wait) : Wait := { wait with phase := phase }

inductive Label where
  /-- The body of a `POST /decisions` has been read. -/
  | decisionsPosted (header : Option String) (body : Json)
  /-- The first `log.read()` of `waitForDecision` is over. -/
  | waitRead (wait : Nat) (failed : Bool) (requestId createdAt : String)
  /-- The next append has been carried out, as far as `written` says. -/
  | wrote (written : Written) (ok : Bool)
  /-- `waitForDecision` goes on after its append. -/
  | waitAppended (wait : Nat)
  /-- The second `log.read()` of `waitForDecision` is over. -/
  | waitReread (wait : Nat) (failed : Bool)
  | timedOut (wait : Nat)
  | callerAnswered (caller : Nat)
  /-- The body of a `POST /requests/:id/decision` has been read. -/
  | decisionPosted (header : Option String) (body : Json) (requestId : Option String)
  | decisionRead (decider : Nat) (failed : Bool) (decidedAt : String)
  | decisionAppended (decider : Nat)
  | closed
  | restarted (ownerId : String)

variable (digest : String → String)

def fingerprintFor (ownerId : String) (action : ReviewApprovalAction) (subject : Json) : String :=
  digest (fingerprintText ownerId action subject)

/-! ### Waiting for a decision -/

def joinWait (fingerprint : String) (index : Nat) (service : Service) : Service :=
  { service with callers := service.callers ++ [⟨fingerprint, index, false⟩] }

def startWait (action : ReviewApprovalAction) (subject : Json) (fingerprint : String)
    (service : Service) : Service :=
  { service with
    waits := service.waits ++ [⟨action, subject, fingerprint, .reading, none, none⟩]
    inFlight := service.inFlight.set fingerprint service.waits.length
    callers := service.callers ++ [⟨fingerprint, service.waits.length, false⟩] }

def postDecisions (header : Option String) (body : Json) (service : Service) : Service :=
  match parseDecisionRequest body service.ownerId with
  | .error _ => service
  | .ok (action, subject) =>
    if ownerHeaderMatches header service.ownerId then
      let fingerprint := fingerprintFor digest service.ownerId action subject
      match service.inFlight.get? fingerprint with
      | some index => joinWait fingerprint index service
      | none => startWait action subject fingerprint service
    else service

def newRequest (service : Service) (wait : Wait) (requestId createdAt : String) :
    ReviewApprovalRequest :=
  { requestId := requestId
    fingerprint := wait.fingerprint
    ownerId := service.ownerId
    action := wait.action
    subject := wait.subject
    createdAt := createdAt }

def register (index : Nat) (request : ReviewApprovalRequest) (phase : WaitPhase)
    (service : Service) : Service :=
  { service with
    pendingWaiters := service.pendingWaiters.set request.requestId index
    waits := service.waits.modify index
      (fun wait => { wait with request := some request, phase := phase }) }

/-- After the first reading.  `randomUUID` never gives an id a second time. -/
def afterWaitRead (index : Nat) (wait : Wait) (state : Option ReviewApprovalState)
    (requestId createdAt : String) (service : Service) : Option Service :=
  match state with
  | none => some (setWait index (moveTo (.finished (.error .storeFailed))) service)
  | some state =>
    match state.decisions.get? wait.fingerprint with
    | some existing => some (setWait index (moveTo (.finished (.ok existing))) service)
    | none =>
      match state.requests.get? wait.fingerprint with
      | some pending => some (register index pending .rereading service)
      | none =>
        if service.issued.any (fun entry => entry.1 = requestId) then none
        else
          let request := newRequest service wait requestId createdAt
          let registered := register index request .appending service
          some { registered with
            issued := registered.issued ++ [(requestId, wait.fingerprint)]
            writes := registered.writes ++ [(.wait index, .request request)] }

def afterWaitReread (index : Nat) (wait : Wait) (request : ReviewApprovalRequest)
    (state : Option ReviewApprovalState) (service : Service) : Service :=
  match state with
  | none => setWait index (moveTo (.finished (.error .storeFailed))) service
  | some state =>
    let returned := setWait index (moveTo .returned) service
    match state.decisions.get? wait.fingerprint with
    | none => returned
    | some decided => settleWaiter request.requestId (.ok decided) returned

def timeOut (index : Nat) (request : ReviewApprovalRequest) (service : Service) : Service :=
  { service with
    pendingWaiters := service.pendingWaiters.restrict (fun key => key ≠ request.requestId)
    waits := service.waits.modify index (Wait.settle (.error (.timedOut request.requestId))) }

/-- `finally { if (inFlight.get(fingerprint) === decision) inFlight.delete(fingerprint) }`. -/
def leaveFlight (caller : Caller) (service : Service) : Service :=
  if service.inFlight.get? caller.fingerprint = some caller.wait then
    { service with inFlight := service.inFlight.restrict (fun key => key ≠ caller.fingerprint) }
  else service

def answerCaller (index : Nat) (caller : Caller) (outcome : Outcome) (service : Service) :
    Service :=
  let answered := leaveFlight caller
    { service with callers := service.callers.set index { caller with answered := true } }
  match outcome with
  | .ok decision => report caller.fingerprint decision answered
  | .error _ => answered

/-- After the reading of `POST /requests/:id/decision`. -/
def afterDecisionRead (index : Nat) (requestId : String) (approved : Bool)
    (state : Option ReviewApprovalState) (decidedAt : String) (service : Service) : Service :=
  let answered := { service with deciders := service.deciders.set index .answered }
  match state with
  | none => answered
  | some state =>
    match state.requests.values.find? (fun item => item.requestId = requestId) with
    | none => answered
    | some pending =>
      match state.decisions.get? pending.fingerprint with
      | some current => report pending.fingerprint current answered
      | none =>
        let decision : ReviewApprovalDecision :=
          { requestId := requestId
            fingerprint := pending.fingerprint
            ownerId := service.ownerId
            approved := approved
            actorId := service.ownerId
            decidedAt := decidedAt }
        { service with
          deciders := service.deciders.set index (.appending decision)
          writes := service.writes ++ [(.decider index, .decision decision)] }

def afterDecisionAppended (index : Nat) (decision : ReviewApprovalDecision) (ok : Bool)
    (service : Service) : Service :=
  let answered := { service with deciders := service.deciders.set index .answered }
  if ok then
    report decision.fingerprint decision (settleWaiter decision.requestId (.ok decision) answered)
  else answered

/-- The call that asked for an append learns how it went. -/
def notifyWriter (writer : Writer) (record : ReviewApprovalRecord) (ok : Bool)
    (service : Service) : Service :=
  match writer, record with
  | .wait index, _ => setWait index (moveTo (.appended ok)) service
  | .decider index, .decision decision =>
    { service with deciders := service.deciders.set index (.appended decision ok) }
  | .decider _, .request _ => service

/-- One append of the chain.  It succeeds only when the whole line is written;
it may fail even then, as when `sync` fails. -/
def performWrite (written : Written) (ok : Bool) (service : Service) : Option Service :=
  match service.writes with
  | [] => none
  | (writer, record) :: rest =>
    if ok && written ≠ .line then none
    else
      some (notifyWriter writer record ok
        { service with
          content := service.content ++ written.chunks record
          writes := rest })

def closeWaiters (service : Service) : Service :=
  { service with
    pendingWaiters := .empty
    waits := service.pendingWaiters.values.foldl
      (fun waits index => waits.modify index (Wait.settle (.error .closed))) service.waits }

def seen (failed : Bool) (service : Service) : Option ReviewApprovalState :=
  if failed then none else read service.content

def advance (service : Service) : Label → Option Service
  | .decisionsPosted header body => some (postDecisions digest header body service)
  | .waitRead index failed requestId createdAt =>
    match service.waits[index]? with
    | some wait =>
      match wait.phase with
      | .reading =>
        afterWaitRead index wait (seen failed service) requestId createdAt service
      | _ => none
    | none => none
  | .wrote written ok => performWrite written ok service
  | .waitAppended index =>
    match service.waits[index]? with
    | some wait =>
      match wait.phase, wait.request with
      | .appended true, _ => some (setWait index (moveTo .rereading) service)
      | .appended false, some request =>
        some (setWait index (moveTo (.finished (.error .storeFailed)))
          (settleWaiter request.requestId (.error .storeFailed) service))
      | _, _ => none
    | none => none
  | .waitReread index failed =>
    match service.waits[index]? with
    | some wait =>
      match wait.phase, wait.request with
      | .rereading, some request =>
        some (afterWaitReread index wait request (seen failed service) service)
      | _, _ => none
    | none => none
  | .timedOut index =>
    match service.waits[index]? with
    | some wait =>
      match wait.request, wait.promise with
      | some request, none => some (timeOut index request service)
      | _, _ => none
    | none => none
  | .callerAnswered index =>
    match service.callers[index]? with
    | some caller =>
      match caller.answered, service.waits[caller.wait]?.bind Wait.outcome with
      | false, some outcome => some (answerCaller index caller outcome service)
      | _, _ => none
    | none => none
  | .decisionPosted header body requestId =>
    match parseOwnerDecision service.ownerId header body requestId with
    | .error _ => some service
    | .ok (requestId, approved) =>
      some { service with deciders := service.deciders ++ [.reading requestId approved] }
  | .decisionRead index failed decidedAt =>
    match service.deciders[index]? with
    | some (.reading requestId approved) =>
      some (afterDecisionRead index requestId approved (seen failed service) decidedAt service)
    | _ => none
  | .decisionAppended index =>
    match service.deciders[index]? with
    | some (.appended decision ok) => some (afterDecisionAppended index decision ok service)
    | _ => none
  | .closed => some (closeWaiters service)
  | .restarted ownerId => some (restart ownerId service)

def Step (before : Service) (label : Label) (after : Service) : Prop :=
  advance digest before label = some after

end AnnaAgent.Host
