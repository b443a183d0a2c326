/-
Decisions on reimbursements.

A system is the orchestrator with the facts of the approvals that have come about:
what was requested, rejected and submitted.
-/

import AnnaAgent.Foundation.Run
import AnnaAgent.Reimbursement.Orchestrator

namespace AnnaAgent.Reimbursement

open Foundation

/-- What has happened to the approvals. -/
inductive Fact where
  /-- `submit_intent` has created an approval. -/
  | requested (approval : ApprovalRequest)
  /-- `reject_submit` was called with an id and has rejected this approval. -/
  | rejected (calledWith : ApprovalId) (approval : ApprovalRequest)
  /-- `approve_submit` was called with an id and has called `adapter.submit`. -/
  | submitted (calledWith : ApprovalId) (submission : Submission)

/-- The orchestrator, and what has happened so far. -/
structure System where
  orchestrator : Orchestrator
  facts : List Fact

/-- One call from outside, or one turn of an advance.  An advance of the engine is a
series of tool calls and messages of the model with its outcome at the end. -/
inductive Action where
  | begin (workspaceId actorUserId : String) (attachments : List AttachmentRef)
  | tool (ref : Ref) (requiredFields : List String) (toolName : String) (arguments : Fields)
      (answer : Answer)
  | message (ref : Ref) (text : Option String)
  /-- An event of the engine, or `reimbursement.run.created`. -/
  | noted (ref : Ref) (kind : String) (payload : Fields)
  | failed (ref : Ref) (errorCode message : String)
  | saved (ref : Ref)
  | answers (ref : Ref) (answers : Fields)
  | hostResult (ref : Ref) (result : Fields) (hostStatus : String)
  | approve (approvalId : ApprovalId) (approvedBy : String) (submitAnswer verifyAnswer : Answer)
  | reject (approvalId : ApprovalId) (rejectedBy : String)
  | verify (runId : RunId) (answer : Answer)
  | read (runId : RunId)
  | restart

variable (env : Environment)

def Orchestrator.runOfApproval (orchestrator : Orchestrator) (approvalId : ApprovalId) :
    Option ReimbursementRun :=
  (orchestrator.getRunByApprovalId env approvalId).bind (fun found => found.1.objects[found.2]?)

def Orchestrator.submissionOf (orchestrator : Orchestrator) (approvalId : ApprovalId) :
    Option Submission :=
  (orchestrator.runOfApproval env approvalId).bind (fun run =>
    (submittable env run).map (submission run))

def Orchestrator.rejectionOf (orchestrator : Orchestrator) (approvalId : ApprovalId) :
    Option ApprovalRequest :=
  (orchestrator.runOfApproval env approvalId).bind rejectable

/-- The approval that a tool call creates. -/
def Orchestrator.requestOf (orchestrator : Orchestrator) (ref : Ref) (toolName : String)
    (arguments : Fields) : Option ApprovalRequest :=
  if toolName = "reimbursement.submit_intent" then
    (orchestrator.objects[ref]?).bind (fun run =>
      requestedApproval env run arguments (orchestrator.approvalSequence + 1))
  else none

def Orchestrator.act (orchestrator : Orchestrator) : Action → Orchestrator
  | .begin workspaceId actorUserId attachments =>
    orchestrator.beginRun workspaceId actorUserId attachments
  | .tool ref requiredFields toolName arguments answer =>
    orchestrator.toolCalled env ref requiredFields toolName arguments answer
  | .message ref text => orchestrator.modify ref (fun run => onAssistantFinal env run text)
  | .noted ref kind payload => orchestrator.modify ref (fun run => run.audited kind payload)
  | .failed ref errorCode message =>
    orchestrator.modify ref (fun run => run.failRun errorCode message)
  | .saved ref => orchestrator.saveAndReturn ref
  | .answers ref answers => orchestrator.modify ref (fun run => recordAnswers env run answers)
  | .hostResult ref result hostStatus =>
    match orchestrator.objects[ref]? with
    | none => orchestrator
    | some run =>
      match applyHostResult env run result hostStatus with
      | none => orchestrator
      | some applied => (orchestrator.modify ref (fun _ => applied)).saveAndReturn ref
  | .approve approvalId approvedBy submitAnswer verifyAnswer =>
    orchestrator.approveSubmit env approvalId approvedBy submitAnswer verifyAnswer
  | .reject approvalId rejectedBy => orchestrator.rejectSubmit env approvalId rejectedBy
  | .verify runId answer => orchestrator.retryVerify env runId answer
  | .read runId =>
    match orchestrator.getRun env runId with
    | none => orchestrator
    | some found => found.1
  | .restart => orchestrator.restart

def Orchestrator.factsOf (orchestrator : Orchestrator) : Action → List Fact
  | .tool ref _ toolName arguments _ =>
    (orchestrator.requestOf env ref toolName arguments).toList.map Fact.requested
  | .approve approvalId _ _ _ =>
    (orchestrator.submissionOf env approvalId).toList.map (Fact.submitted approvalId)
  | .reject approvalId _ =>
    (orchestrator.rejectionOf env approvalId).toList.map (Fact.rejected approvalId)
  | _ => []

def System.perform (system : System) (action : Action) : System :=
  { orchestrator := system.orchestrator.act env action
    facts := system.facts ++ system.orchestrator.factsOf env action }

inductive Performed : System → Action → System → Prop
  | perform (system : System) (action : Action) :
      Performed system action (system.perform env action)

/-- A process that has started on an empty store. -/
def emptySystem : System :=
  { orchestrator :=
      { objects := []
        runsById := OrderedMap.empty
        runsByApprovalId := OrderedMap.empty
        stored := OrderedMap.empty
        runSequence := 0
        approvalSequence := 0
        writeSequence := 0 }
    facts := [] }

/-- The submission is of the approval that was named, which `submit_intent` has created
for the run and nobody has rejected, and the draft is the one that was approved. -/
structure Submission.isApproved (submission : Submission) (calledWith : ApprovalId)
    (earlier : List Fact) : Prop where
  named : submission.confirmationId = calledWith ∧ submission.approval.id = calledWith
  requested : ∃ approval, Fact.requested approval ∈ earlier ∧
    { submission.approval with status := .pending } = approval ∧
      approval.runId = submission.sourceRunId
  notRejected : ∀ otherId approval, Fact.rejected otherId approval ∈ earlier →
    otherId ≠ calledWith ∧ approval.id ≠ calledWith
  snapshot : ∃ snapshot, submission.approval.draftSnapshot = some snapshot ∧
    env.same (.obj snapshot) (.obj submission.draft.asMcpPayload) = true
  payload : payloadMatches env submission.approval submission.draft = true

/-- Every fact is about the approval that was named. -/
def Fact.isBound : Fact → List Fact → Prop
  | .requested _, _ => True
  | .rejected calledWith approval, _ => approval.id = calledWith
  | .submitted calledWith submission, earlier => submission.isApproved env calledWith earlier

def BoundFacts (facts : List Fact) : Prop :=
  ∀ earlier fact later, facts = earlier ++ fact :: later → fact.isBound env earlier

/-- The id that a decision of the user names. -/
def Action.decided : Action → Option ApprovalId
  | .approve approvalId _ _ _ => some approvalId
  | .reject approvalId _ => some approvalId
  | _ => none

def NamesCurrent (move : Move System Action) : Prop :=
  ∀ approvalId run approval, move.label.decided = some approvalId →
    move.before.orchestrator.runOfApproval env approvalId = some run →
      run.approval = some approval → approval.id = approvalId

end AnnaAgent.Reimbursement
