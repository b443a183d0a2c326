/-
Callers of the reimbursement orchestrator at the same time.

Between two calls of the connector or of the store a caller runs undisturbed, and
at each of these calls any other caller may go on.  A call that has not returned
holds what its caller needs when it does.
-/

import AnnaAgent.Reimbursement.Frames
import AnnaAgent.Foundation.Run

namespace AnnaAgent.Reimbursement

open Foundation

variable (env : Environment)

/-! ### The result of a submission in two parts

The number of the write action is fetched from the store in between. -/

/-- The run as the result of `adapter.submit` is taken over, and whether it has the
two fields that are read. -/
def submitRecorded (run : ReimbursementRun) (result : Fields) : ReimbursementRun × Bool :=
  let called := run.recordToolCalled env "reimbursement.submit" (submitInput run) "success" none
  match result.lookup "external_reimbursement_id" with
  | none => (called, false)
  | some externalId =>
    let identified :=
      { called with draft := { called.draft with externalReimbursementId := externalId } }
    match result.lookup "external_status" with
    | none => (identified, false)
    | some externalStatus =>
      ({ identified with
          draft := { identified.draft with externalStatus := externalStatus } }, true)

/-- The run with its write action; `none` is a `ValidationError`. -/
def writeRecorded (run : ReimbursementRun) (approvalId : ApprovalId) (writeId : Nat) :
    Option ReimbursementRun :=
  match run.draft.externalReimbursementId with
  | .str text =>
    let action := writeActionFor run approvalId writeId text
    some ({ run with writeAction := some action }.audited "reimbursement.submitted"
      [("approval_id", Fields.get (submitInput run) "approval_id"),
        ("write_action_id", .num (JsonNumber.ofNat writeId)),
        ("approval_payload_hash", hashText action.approvalPayloadHash),
        ("draft_snapshot_hash", hashText action.draftSnapshotHash),
        ("external_reimbursement_id", .str text),
        ("external_status", run.draft.externalStatus)])
  | _ => none

/-- What is looked for in the store. -/
inductive Query where
  | run (runId : RunId)
  | approval (approvalId : ApprovalId)
  | all (workspaceId actorUserId : String)
  deriving DecidableEq

/-- What a caller does with the run that it has asked for. -/
inductive Purpose where
  | approve (approvalId : ApprovalId) (approvedBy : String)
  | reject (approvalId : ApprovalId) (rejectedBy : String)
  | verify
  | read
  deriving DecidableEq

inductive Call where
  /-- `adapter.submit`. -/
  | submitting (ref : Ref) (runId : RunId) (approvalId : ApprovalId)
  /-- `next_write_sequence`, after the submission has succeeded. -/
  | numbering (ref : Ref) (runId : RunId) (approvalId : ApprovalId)
  /-- `adapter.get_status`. -/
  | verifying (ref : Ref) (runId : RunId)
  /-- `save_run`. -/
  | saving (ref : Ref) (runId : RunId)
  /-- A read of the store. -/
  | reading (query : Query) (purpose : Purpose)
  /-- A read that has found rows, which its caller has not taken over yet. -/
  | loaded (rows : List ReimbursementRun) (purpose : Purpose)
  deriving DecidableEq

namespace Call

/-- The object that a call is about, and its run. -/
def holds : Call → Option (Ref × RunId)
  | .submitting ref runId _ => some (ref, runId)
  | .numbering ref runId _ => some (ref, runId)
  | .verifying ref runId => some (ref, runId)
  | .saving ref runId => some (ref, runId)
  | .reading _ _ => none
  | .loaded _ _ => none

def submits : Call → Option RunId
  | .submitting _ runId _ => some runId
  | _ => none

def numbers : Call → Option RunId
  | .numbering _ runId _ => some runId
  | _ => none

/-- The run that will have been saved when its caller is done. -/
def records : Call → Option RunId
  | .numbering _ runId _ => some runId
  | .verifying _ runId => some runId
  | .saving _ runId => some runId
  | _ => none

end Call

/-- A row of the store becomes a run. -/
def reload (row : ReimbursementRun) : Option ReimbursementRun :=
  (env.reloadDraft row.draft).map (fun draft => { row with draft := draft })

namespace Orchestrator

variable (orchestrator : Orchestrator)

/-- A run that was read becomes an object of the process. -/
def adopt (run : ReimbursementRun) : Orchestrator :=
  { orchestrator with objects := orchestrator.objects ++ [run] }.rememberRun
    orchestrator.objects.length run

def cached : Query → Option Ref
  | .run runId => orchestrator.runsById.get? runId
  | .approval approvalId => orchestrator.runsByApprovalId.get? approvalId
  | .all _ _ => none

/-- What the store answers; `none` is an exception. -/
def rows : Query → Option (List ReimbursementRun)
  | .run runId => ((orchestrator.stored.get? runId).bind (reload env)).map (fun run => [run])
  | .approval approvalId =>
    ((orchestrator.storedByApprovalId approvalId).bind (reload env)).map (fun run => [run])
  | .all workspaceId actorUserId =>
    (orchestrator.stored.values.reverse.mapM (reload env)).map (fun runs =>
      runs.filter (fun run =>
        decide (run.workspaceId = workspaceId ∧ run.actorUserId = actorUserId)))

/-- The caller has its run and goes on to its next call. -/
def goOn (ref : Ref) : Purpose → Orchestrator × List Call
  | .approve approvalId approvedBy =>
    match orchestrator.objects[ref]? with
    | none => (orchestrator, [])
    | some run =>
      match submittable env run with
      | none => (orchestrator, [])
      | some approval =>
        (orchestrator.modify ref (fun _ => openSubmit run approval approvalId approvedBy),
          [.submitting ref run.id approvalId])
  | .reject approvalId rejectedBy =>
    match orchestrator.objects[ref]? with
    | none => (orchestrator, [])
    | some run =>
      match rejectable run with
      | none => (orchestrator, [])
      | some approval =>
        let rejected := rejectedRun run approval approvalId rejectedBy
        ((orchestrator.modify ref (fun _ => rejected)).rememberRun ref rejected,
          [.saving ref run.id])
  | .verify =>
    match orchestrator.objects[ref]? with
    | none => (orchestrator, [])
    | some run =>
      if verifiable env run = true then
        (orchestrator.modify ref (fun _ => { run with status := .verifying }),
          [.verifying ref run.id])
      else (orchestrator, [])
  | .read => (orchestrator, [])

/-- `get_run`, `get_run_by_approval_id` and `list_runs`, up to the first call. -/
def ask (query : Query) (purpose : Purpose) : Orchestrator × List Call :=
  match orchestrator.cached query with
  | some ref => orchestrator.goOn env ref purpose
  | none => (orchestrator, [.reading query purpose])

/-- A call returns.  The answer is the one of the connector; the last component has
the run whose submission has succeeded. -/
def returns : Call → Answer → Orchestrator × List Call × List RunId
  | .submitting ref runId approvalId, answer =>
    match orchestrator.objects[ref]? with
    | none => (orchestrator, [], [])
    | some run =>
      match answer with
      | .error error =>
        let failed := failToolCall env run "reimbursement.submit" (submitInput run) error
        ((orchestrator.modify ref (fun _ => failed)).rememberRun ref failed,
          [.saving ref runId], [])
      | .ok result =>
        (orchestrator.modify ref (fun _ => (submitRecorded env run result).1),
          if (submitRecorded env run result).2 = true then [.numbering ref runId approvalId]
          else [],
          [runId])
  | .numbering ref runId approvalId, _ =>
    let numbered := { orchestrator with writeSequence := orchestrator.writeSequence + 1 }
    match orchestrator.objects[ref]? with
    | none => (numbered, [], [])
    | some run =>
      match writeRecorded run approvalId numbered.writeSequence with
      | none => (numbered, [], [])
      | some recorded =>
        let next := (numbered.modify ref (fun _ => recorded)).ask env (.run runId) .verify
        (next.1, next.2, [])
  | .verifying ref runId, answer =>
    match orchestrator.objects[ref]? with
    | none => (orchestrator, [], [])
    | some run =>
      let received := verifyReceived env run answer
      ((orchestrator.modify ref (fun _ => received)).rememberRun ref received,
        [.saving ref runId], [])
  | .saving ref runId, _ =>
    match orchestrator.objects[ref]? with
    | none => (orchestrator, [], [])
    | some run => ({ orchestrator with stored := orchestrator.stored.set runId run }, [], [])
  | .reading query purpose, _ =>
    match orchestrator.rows env query with
    | none => (orchestrator, [], [])
    | some rows => (orchestrator, [.loaded rows purpose], [])
  | .loaded rows purpose, _ =>
    let next := (rows.foldl adopt orchestrator).goOn env orchestrator.objects.length purpose
    (next.1, next.2, [])

end Orchestrator

/-! ### Interleavings -/

/-- The orchestrator, the calls that have not returned, and the runs whose submission
has been carried out. -/
structure Interleaved where
  orchestrator : Orchestrator
  calls : List Call
  submitted : List RunId

inductive Turn where
  | begin (workspaceId actorUserId : String) (attachments : List AttachmentRef)
  /-- The model calls `submit_intent`. -/
  | intent (ref : Ref) (arguments : Fields)
  /-- Any other part of an advance, an answer of the user, or a result of the host. -/
  | touch (ref : Ref) (after : ReimbursementRun)
  /-- `_save_and_return` at the end of an advance. -/
  | save (ref : Ref)
  /-- `approve_submit`, `reject_submit`, `retry_verify`, `get_run` or `list_runs`. -/
  | ask (query : Query) (purpose : Purpose)
  | returns (call : Call) (answer : Answer)
  /-- The process ends.  Some of the submissions that had not returned were carried
  out. -/
  | crash (carriedOut : List RunId)

/-- What the entries of the orchestrator ask for. -/
def Query.isAskedFor : Query → Purpose → Bool
  | .run _, .verify => true
  | .run _, .read => true
  | .approval approvalId, .approve named _ => decide (named = approvalId)
  | .approval approvalId, .reject named _ => decide (named = approvalId)
  | .approval _, .read => true
  | .all _ _, .read => true
  | _, _ => false

/-- `submit_intent` on an object.  An approval that it creates is found by its id from
then on. -/
def Orchestrator.requestApproval (orchestrator : Orchestrator) (ref : Ref) (arguments : Fields) :
    Orchestrator :=
  match orchestrator.objects[ref]? with
  | none => orchestrator
  | some run =>
    let approvalId := orchestrator.approvalSequence + 1
    if (requestedApproval env run arguments approvalId).isSome = true then
      { orchestrator.modify ref (fun _ =>
          (dispatchSubmitIntent env run arguments approvalId).1) with
        approvalSequence := approvalId
        runsByApprovalId := orchestrator.runsByApprovalId.set approvalId ref }
    else orchestrator

/-- A touch leaves id, approval and write action of its object alone, a call returns
that was made, and only submissions that had begun are carried out. -/
def Turn.isPossible (state : Interleaved) : Turn → Prop
  | .touch ref after =>
    ∃ run : ReimbursementRun, state.orchestrator.objects[ref]? = some run ∧ Untouched run after
  | .ask query purpose => query.isAskedFor purpose = true
  | .returns call _ => call ∈ state.calls
  | .crash carriedOut =>
    ∀ runId ∈ carriedOut, runId ∈ state.calls.filterMap Call.submits
  | _ => True

def Interleaved.perform (state : Interleaved) : Turn → Interleaved
  | .begin workspaceId actorUserId attachments =>
    { state with
      orchestrator := state.orchestrator.beginRun workspaceId actorUserId attachments }
  | .intent ref arguments =>
    { state with orchestrator := state.orchestrator.requestApproval env ref arguments }
  | .touch ref after =>
    { state with orchestrator := state.orchestrator.modify ref (fun _ => after) }
  | .save ref =>
    match state.orchestrator.objects[ref]? with
    | none => state
    | some run =>
      { state with
        orchestrator := state.orchestrator.rememberRun ref run
        calls := state.calls ++ [.saving ref run.id] }
  | .ask query purpose =>
    let next := state.orchestrator.ask env query purpose
    { state with
      orchestrator := next.1
      calls := state.calls ++ next.2 }
  | .returns call answer =>
    let next := state.orchestrator.returns env call answer
    { orchestrator := next.1
      calls := state.calls.erase call ++ next.2.1
      submitted := state.submitted ++ next.2.2 }
  | .crash carriedOut =>
    { orchestrator := state.orchestrator.restart
      calls := []
      submitted := state.submitted ++ carriedOut }

inductive Interleaves : Interleaved → Turn → Interleaved → Prop
  | turn (state : Interleaved) (turn : Turn) (possible : turn.isPossible state) :
      Interleaves state turn (state.perform env turn)

/-- A process that has started on an empty store. -/
def emptyInterleaved : Interleaved :=
  { orchestrator :=
      { objects := []
        runsById := OrderedMap.empty
        runsByApprovalId := OrderedMap.empty
        stored := OrderedMap.empty
        runSequence := 0
        approvalSequence := 0
        writeSequence := 0 }
    calls := []
    submitted := [] }

def ReimbursementRun.isApproved (run : ReimbursementRun) : Prop :=
  ∃ approval, run.approval = some approval ∧ approval.status = .approved

/-- The run tells that its submission was carried out. -/
def ReimbursementRun.isRecorded (run : ReimbursementRun) : Prop :=
  run.isApproved ∧ run.writeAction.isSome = true

namespace Interleaved

variable (state : Interleaved)

def copyOf (runId : RunId) : Option ReimbursementRun :=
  match state.orchestrator.runsById.get? runId with
  | some ref => state.orchestrator.objects[ref]?
  | none => state.orchestrator.stored.get? runId

def submitting : List RunId := state.calls.filterMap Call.submits

/-- The runs whose submission has succeeded and whose write action is getting its
number. -/
def numbering : List RunId := state.calls.filterMap Call.numbers

/-- No call that holds an object of the run is on its way. -/
def IsQuiet (runId : RunId) : Prop :=
  ∀ call ∈ state.calls, ∀ ref, call.holds ≠ some (ref, runId)

end Interleaved

/-- One submission at a time, none after one that was carried out, and its run neither
loses its approval nor its write action. -/
structure OneSubmission (state : Interleaved) : Prop where
  single : state.submitting.Nodup
  notAgain : ∀ runId ∈ state.submitted, runId ∉ state.submitting
  kept : ∀ runId ∈ state.submitted, ∃ run, state.copyOf runId = some run ∧ run.isApproved ∧
    (runId ∈ state.numbering ∨ run.writeAction.isSome = true)
  stored : ∀ runId ∈ state.submitted, state.IsQuiet runId →
    ∃ row, state.orchestrator.stored.get? runId = some row ∧ row.isRecorded

/-- Another copy may take the place of the object of its run: no call of the run is on
its way, and the two agree about the approval and the write action. -/
def Interleaved.Replaceable (state : Interleaved) (run : ReimbursementRun) : Prop :=
  state.IsQuiet run.id ∧ ∀ (ref : Ref) (current : ReimbursementRun),
    state.orchestrator.runsById.get? run.id = some ref →
      state.orchestrator.objects[ref]? = some current → Untouched current run

/-- An approval or a rejection that goes on is about the object of its run, and no
submission of the run has begun. -/
def Interleaved.DecidesCurrent (state : Interleaved) (approvalId : ApprovalId)
    (goesOn : ReimbursementRun → Bool) : Prop :=
  ∀ (ref : Ref) (run : ReimbursementRun),
    state.orchestrator.runsByApprovalId.get? approvalId = some ref →
      state.orchestrator.objects[ref]? = some run → goesOn run = true →
        state.orchestrator.runsById.get? run.id = some ref ∧
          run.id ∉ state.submitting ∧ run.id ∉ state.numbering

/-- The turns after which everything stays as it should. -/
def Harmless (state : Interleaved) : Turn → Prop
  | .intent ref arguments =>
    ∀ run : ReimbursementRun, state.orchestrator.objects[ref]? = some run →
      state.orchestrator.runsById.get? run.id = some ref →
        (requestedApproval env run arguments
          (state.orchestrator.approvalSequence + 1)).isSome = true →
          run.writeAction = none ∧ run.id ∉ state.submitting ∧ run.id ∉ state.numbering
  | .save ref =>
    ∀ run : ReimbursementRun, state.orchestrator.objects[ref]? = some run →
      state.orchestrator.runsById.get? run.id = some ref ∨ state.Replaceable run
  | .ask (.approval approvalId) (.approve _ _) =>
    state.DecidesCurrent approvalId (fun run => (submittable env run).isSome)
  | .ask (.approval approvalId) (.reject _ _) =>
    state.DecidesCurrent approvalId (fun run => (rejectable run).isSome)
  | .returns (.submitting _ _ _) (.ok result) =>
    (result.lookup "external_reimbursement_id").isSome = true ∧
      (result.lookup "external_status").isSome = true
  | .returns (.numbering ref _ _) _ =>
    ∀ run : ReimbursementRun, state.orchestrator.objects[ref]? = some run →
      ∃ text, run.draft.externalReimbursementId = .str text ∧ env.truthy (.str text) = true
  | .returns (.loaded rows _) _ =>
    ∀ row ∈ rows, (state.orchestrator.runsById.get? row.id).isSome = true → state.Replaceable row
  | .crash carriedOut =>
    ∀ runId ∈ state.submitted ++ carriedOut,
      ∃ row, state.orchestrator.stored.get? runId = some row ∧ row.isRecorded
  | _ => True

end AnnaAgent.Reimbursement
