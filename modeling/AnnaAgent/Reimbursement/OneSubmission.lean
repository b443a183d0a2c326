/-
One submission for a reimbursement.

Every turn that does no harm keeps the guards: a submission is not begun twice, and
the run of a submission that was carried out keeps its approval and its write action.
-/

import AnnaAgent.Reimbursement.DecisionBinding
import AnnaAgent.Reimbursement.SubmissionCalls

namespace AnnaAgent.Reimbursement

open Foundation

variable {env : Environment} {orchestrator : Orchestrator} {calls : List Call}
  {submitted : List RunId} {state : Interleaved}

namespace Guarded

variable {run : ReimbursementRun} {approvalId : ApprovalId} {runId : RunId} {ref : Ref}

theorem sameRef (isRef : orchestrator.runsById.get? runId = some ref) (isId : run.id = runId) :
    orchestrator.runsById.get? run.id = some ref := by
  rw [isId]
  exact isRef

theorem answered (guarded : Guarded orchestrator calls submitted) {call : Call} {ref : Ref}
    {runId : RunId} {after : ReimbursementRun} (isCall : call ∈ calls)
    (holds : call.holds = some (ref, runId)) (numbers : call.numbers = none)
    (isRun : orchestrator.objects[ref]? = some run) (isId : run.id = runId)
    (sameId : after.id = run.id) (sameApproval : after.approval = run.approval)
    (sameWrite : after.writeAction.isSome = run.writeAction.isSome) :
    Guarded ((orchestrator.modify ref (fun _ => after)).rememberRun ref after)
      (calls.erase call ++ [.saving ref runId]) submitted := by
  have isRef : orchestrator.runsById.get? runId = some ref :=
    guarded.holds call isCall ref runId holds
  have approved : run.isApproved → after.isApproved := by
    intro before
    rcases before with ⟨approval, isApproval, isApproved⟩
    refine ⟨approval, ?_, isApproved⟩
    rw [sameApproval]
    exact isApproval
  have modified : Guarded (orchestrator.modify ref (fun _ => after)) calls submitted := by
    apply guarded.modify isRun sameId
    · intro member here
      exact approved (guarded.opened run.id member ref run here isRun)
    · intro member here
      have now := guarded.kept run.id member ref run here isRun
      rw [sameWrite]
      exact ⟨approved now.1, now.2⟩
  have isAfter : (orchestrator.modify ref (fun _ => after)).runsById.get? after.id = some ref :=
    sameRef isRef (sameId.trans isId)
  have remembered := modified.remember isAfter
  have isKnown : ((orchestrator.modify ref (fun _ => after)).rememberRun ref after).runsById.get?
      runId = some ref := by
    change (orchestrator.runsById.set after.id ref).get? runId = some ref
    rw [sameId, isId, OrderedMap.get?_set, if_pos rfl]
  have saving := remembered.add_saving isKnown
  rw [← append_erase isCall]
  apply saving.drop call
  · intro otherId _ isNumber
    rw [numbers] at isNumber
    cases isNumber
  · intro otherId _ records
    right
    rcases holds_of_records records with ⟨other, isHeld⟩
    rw [holds] at isHeld
    cases isHeld
    rw [append_erase isCall, List.filterMap_append]
    exact List.mem_append_right _ List.mem_cons_self

theorem untouched_submitRecorded (run : ReimbursementRun) (result : Fields) :
    Untouched run (submitRecorded env run result).1 := by
  unfold submitRecorded
  dsimp only
  split
  · exact ⟨rfl, rfl, rfl⟩
  · split
    · exact ⟨rfl, rfl, rfl⟩
    · exact ⟨rfl, rfl, rfl⟩

theorem submitRecorded_goesOn {result : Fields}
    (hasId : (result.lookup "external_reimbursement_id").isSome = true)
    (hasStatus : (result.lookup "external_status").isSome = true) :
    (submitRecorded env run result).2 = true := by
  rcases Option.isSome_iff_exists.mp hasId with ⟨externalId, isId⟩
  rcases Option.isSome_iff_exists.mp hasStatus with ⟨externalStatus, isStatus⟩
  unfold submitRecorded
  dsimp only
  rw [isId, isStatus]

theorem returns_submitting (guarded : Guarded orchestrator calls submitted) (answer : Answer)
    (isCall : .submitting ref runId approvalId ∈ calls)
    (harmless : ∀ result, answer = .ok result → (result.lookup "external_reimbursement_id").isSome = true ∧ (result.lookup "external_status").isSome = true) :
    Guarded (orchestrator.returns env (.submitting ref runId approvalId) answer).1
      (calls.erase (.submitting ref runId approvalId) ++
        (orchestrator.returns env (.submitting ref runId approvalId) answer).2.1)
      (submitted ++ (orchestrator.returns env (.submitting ref runId approvalId) answer).2.2) := by
  rcases guarded.held isCall rfl with ⟨isRef, run, isRun, isId⟩
  unfold Orchestrator.returns
  dsimp only
  rw [isRun]
  cases answer with
  | error error =>
    dsimp only
    rw [List.append_nil]
    exact guarded.answered isCall rfl rfl isRun isId rfl rfl rfl
  | ok result =>
    have goesOn := harmless result rfl
    dsimp only
    rw [if_pos (submitRecorded_goesOn goesOn.1 goesOn.2)]
    exact (guarded.touch isRun (untouched_submitRecorded run result)).carryOut isCall

theorem writeRecorded_spec {writeId : Nat} {text : String}
    (isText : run.draft.externalReimbursementId = .str text) :
    ∃ recorded, writeRecorded run approvalId writeId = some recorded ∧ recorded.id = run.id ∧
      recorded.approval = run.approval ∧ recorded.writeAction.isSome = true ∧
        recorded.draft = run.draft := by
  unfold writeRecorded
  rw [isText]
  exact ⟨_, rfl, rfl, rfl, rfl, rfl⟩

section

variable (guarded : Guarded orchestrator calls submitted)

include guarded

theorem returns_numbering (answer : Answer) (isCall : .numbering ref runId approvalId ∈ calls)
    (harmless : ∀ run : ReimbursementRun, orchestrator.objects[ref]? = some run → ∃ text, run.draft.externalReimbursementId = .str text ∧ env.truthy (.str text) = true) :
    Guarded (orchestrator.returns env (.numbering ref runId approvalId) answer).1
      (calls.erase (.numbering ref runId approvalId) ++
        (orchestrator.returns env (.numbering ref runId approvalId) answer).2.1)
      (submitted ++ (orchestrator.returns env (.numbering ref runId approvalId) answer).2.2) := by
  rcases guarded.held isCall rfl with ⟨isRef, run, isRun, isId⟩
  rcases harmless run isRun with ⟨text, isText, isTruthy⟩
  rcases @writeRecorded_spec run approvalId (orchestrator.writeSequence + 1) text isText with
    ⟨recorded, isRecorded, sameId, sameApproval, written, sameDraft⟩
  have numbered : Guarded
      { orchestrator with writeSequence := orchestrator.writeSequence + 1 } calls submitted :=
    guarded.of_same rfl (fun _ => rfl) rfl rfl
  have modified : Guarded (Orchestrator.modify
      { orchestrator with writeSequence := orchestrator.writeSequence + 1 } ref
        (fun _ => recorded)) calls submitted := by
    have approved : run.isApproved → recorded.isApproved := by
      intro before
      rcases before with ⟨approval, isApproval, isApproved⟩
      refine ⟨approval, ?_, isApproved⟩
      rw [sameApproval]
      exact isApproval
    apply numbered.modify isRun sameId
    · intro member here
      exact approved (guarded.opened run.id member ref run here isRun)
    · intro member here
      exact ⟨approved (guarded.kept run.id member ref run here isRun).1, .inr written⟩
  have isObject : (Orchestrator.modify
      { orchestrator with writeSequence := orchestrator.writeSequence + 1 } ref
        (fun _ => recorded)).objects[ref]? = some recorded := object_here isRun
  have verifies : verifiable env recorded = true := by
    unfold verifiable
    rw [written, sameDraft, isText, isTruthy]
    rfl
  unfold Orchestrator.returns
  dsimp only
  rw [isRun]
  dsimp only
  rw [isRecorded]
  dsimp only
  have asks : (Orchestrator.modify
      { orchestrator with writeSequence := orchestrator.writeSequence + 1 } ref
        (fun _ => recorded)).ask env (.run runId) .verify =
      ((Orchestrator.modify
        { orchestrator with writeSequence := orchestrator.writeSequence + 1 } ref
          (fun _ => recorded)).modify ref (fun _ => { recorded with status := .verifying }),
        [.verifying ref runId]) := by
    have isCached : (Orchestrator.modify
        { orchestrator with writeSequence := orchestrator.writeSequence + 1 } ref
          (fun _ => recorded)).cached (.run runId) = some ref := isRef
    unfold Orchestrator.ask
    rw [isCached]
    dsimp only
    unfold Orchestrator.goOn
    dsimp only
    rw [isObject]
    dsimp only
    rw [if_pos verifies, sameId, isId]
  rw [asks, List.append_nil]
  have touched := modified.touch isObject
    (show Untouched recorded { recorded with status := .verifying } from ⟨rfl, rfl, rfl⟩)
  have verifying := touched.add_verifying (show _ = some ref from isRef)
  have isAfter : ∀ after : ReimbursementRun, ((Orchestrator.modify
      { orchestrator with writeSequence := orchestrator.writeSequence + 1 } ref
        (fun _ => recorded)).modify ref
          (fun _ => { recorded with status := .verifying })).objects[ref]? = some after →
      after.writeAction.isSome = true := by
    intro after isAfter
    rw [object_here isObject] at isAfter
    cases isAfter
    exact written
  rw [← append_erase isCall]
  apply verifying.drop
  · intro otherId _ isNumber other after isOther held
    cases isNumber
    change orchestrator.runsById.get? runId = some other at isOther
    rw [isRef] at isOther
    cases isOther
    exact isAfter after held
  · intro otherId _ records
    cases records
    right
    rw [append_erase isCall, List.filterMap_append]
    exact List.mem_append_right _ List.mem_cons_self

theorem returns_loaded {rows : List ReimbursementRun} {purpose : Purpose}
    (isCall : .loaded rows purpose ∈ calls)
    (harmless : ∀ row ∈ rows, (orchestrator.runsById.get? row.id).isSome = true → Interleaved.Replaceable ⟨orchestrator, calls, submitted⟩ row)
    :
    Guarded
      ((rows.foldl Orchestrator.adopt orchestrator).goOn env orchestrator.objects.length purpose).1
      (calls.erase (.loaded rows purpose) ++
        ((rows.foldl Orchestrator.adopt orchestrator).goOn env orchestrator.objects.length
          purpose).2) submitted := by
  rw [← append_erase isCall]
  exact (guarded.takeOver isCall harmless).drop_silent rfl rfl

theorem returns {call : Call} (answer : Answer) (isCall : call ∈ calls)
    (harmless : Harmless env ⟨orchestrator, calls, submitted⟩ (.returns call answer)) :
    Guarded (orchestrator.returns env call answer).1
      (calls.erase call ++ (orchestrator.returns env call answer).2.1)
      (submitted ++ (orchestrator.returns env call answer).2.2) := by
  cases call with
  | submitting ref runId approvalId =>
    apply guarded.returns_submitting answer isCall
    intro result isOk
    subst isOk
    exact harmless
  | numbering ref runId approvalId =>
    apply guarded.returns_numbering answer isCall
    exact harmless
  | verifying ref runId =>
    rcases guarded.held isCall rfl with ⟨isRef, run, isRun, isId⟩
    have same := @same_verifyReceived env run answer
    have sameWrite : (verifyReceived env run answer).writeAction.isSome =
        run.writeAction.isSome := by
      cases answer with
      | error error => rfl
      | ok status => exact Option.isSome_map
    unfold Orchestrator.returns
    dsimp only
    rw [isRun, List.append_nil]
    exact guarded.answered isCall rfl rfl isRun isId same.1 same.2 sameWrite
  | saving ref runId =>
    rcases guarded.held isCall rfl with ⟨isRef, run, isRun, isId⟩
    unfold Orchestrator.returns
    dsimp only
    rw [isRun, List.append_nil, List.append_nil]
    exact guarded.save isCall isRun
  | reading query purpose =>
    unfold Orchestrator.returns
    dsimp only
    cases answers : orchestrator.rows env query with
    | none =>
      rw [List.append_nil, List.append_nil]
      exact guarded.drop_silent rfl rfl
    | some rows =>
      dsimp only
      rw [List.append_nil, ← append_erase isCall]
      apply drop_silent _ rfl rfl
      apply guarded.add
      · intro ref runId same
        cases same
      · rfl
      · intro other otherPurpose same
        cases same
      · intro others otherPurpose same
        cases same
        refine ⟨length_rows (guarded.asked query purpose isCall) answers, ?_⟩
        intro row isRow
        have inStore := guarded.rows_spec answers row isRow
        exact ⟨inStore.1, fun _ => inStore.2⟩
  | loaded rows purpose =>
    unfold Orchestrator.returns
    dsimp only
    rw [List.append_nil]
    exact guarded.returns_loaded isCall harmless

theorem begin (workspaceId actorUserId : String) (attachments : List AttachmentRef) :
    Guarded (orchestrator.beginRun workspaceId actorUserId attachments) calls submitted := by
  have fresh : ∀ runId, runId ≤ orchestrator.runSequence →
      (orchestrator.runsById.set (orchestrator.runSequence + 1)
        orchestrator.objects.length).get? runId = orchestrator.runsById.get? runId := by
    intro runId within
    have other : runId ≠ orchestrator.runSequence + 1 := by omega
    rw [OrderedMap.get?_set, if_neg other]
  have isHere : (orchestrator.runsById.set (orchestrator.runSequence + 1)
      orchestrator.objects.length).get? (orchestrator.runSequence + 1) =
        some orchestrator.objects.length := by
    rw [OrderedMap.get?_set, if_pos rfl]
  have known : ∀ runId ref, orchestrator.runsById.get? runId = some ref →
      runId ≤ orchestrator.runSequence := by
    intro runId ref isRef
    rcases guarded.registered runId ref isRef with ⟨run, isRun, isId⟩
    rw [← isId]
    exact (guarded.known ref run isRun).2
  have isRef : ∀ runId ref, (orchestrator.runsById.set (orchestrator.runSequence + 1)
      orchestrator.objects.length).get? runId = some ref → runId ≤ orchestrator.runSequence →
        orchestrator.runsById.get? runId = some ref := by
    intro runId ref found within
    rw [fresh runId within] at found
    exact found
  have objectOf : ∀ (runId : RunId) (ref : Ref) (run : ReimbursementRun),
      orchestrator.runsById.get? runId = some ref →
        (orchestrator.objects ++ [newRun (orchestrator.runSequence + 1) workspaceId actorUserId
          attachments])[ref]? = some run → orchestrator.objects[ref]? = some run := by
    intro runId ref run found isRun
    rcases guarded.registered runId ref found with ⟨earlier, isEarlier, _⟩
    rw [getElem?_concat_of_some isEarlier] at isRun
    rw [isEarlier]
    exact isRun
  have submitting : ∀ runId ∈ calls.filterMap Call.submits, runId ≤ orchestrator.runSequence := by
    intro runId member
    rcases List.mem_filterMap.mp member with ⟨call, isCall, submits⟩
    rcases holds_of_submits submits with ⟨ref, holds⟩
    exact known runId ref (guarded.holds call isCall ref runId holds)
  constructor
  · intro runId ref found
    change (orchestrator.runsById.set (orchestrator.runSequence + 1)
      orchestrator.objects.length).get? runId = some ref at found
    rw [OrderedMap.get?_set] at found
    split at found
    · rename_i same
      cases found
      exact ⟨_, List.getElem?_concat_length, same.symm⟩
    · rcases guarded.registered runId ref found with ⟨run, isRun, isId⟩
      exact ⟨run, getElem?_concat_of_some isRun, isId⟩
  · intro ref run isRun
    rcases getElem?_concat_some isRun with earlier | ⟨_, same⟩
    · have before := guarded.known ref run earlier
      refine ⟨?_, Nat.le_succ_of_le before.2⟩
      change ((orchestrator.runsById.set (orchestrator.runSequence + 1)
        orchestrator.objects.length).get? run.id).isSome = true
      rw [fresh run.id before.2]
      exact before.1
    · rw [same]
      refine ⟨?_, Nat.le_refl _⟩
      change ((orchestrator.runsById.set (orchestrator.runSequence + 1)
        orchestrator.objects.length).get? (orchestrator.runSequence + 1)).isSome = true
      rw [isHere]
      rfl
  · intro runId row found
    have before := guarded.keys runId row found
    exact ⟨before.1, Nat.le_succ_of_le before.2⟩
  · intro runId member
    exact Nat.le_succ_of_le (guarded.counted runId member)
  · intro call isCall ref runId holds
    have before := guarded.holds call isCall ref runId holds
    exact (fresh runId (known runId ref before)).trans before
  · exact guarded.single
  · exact guarded.notAgain
  · intro runId member ref run found isRun
    have before := isRef runId ref found (submitting runId member)
    exact guarded.opened runId member ref run before (objectOf runId ref run before isRun)
  · intro runId member ref run found isRun
    have before := isRef runId ref found (guarded.counted runId member)
    exact guarded.kept runId member ref run before (objectOf runId ref run before isRun)
  · exact guarded.stored
  · exact guarded.asked
  · intro rows purpose member
    have before := guarded.loaded rows purpose member
    refine ⟨before.1, ?_⟩
    intro row isRow
    have within := (before.2 row isRow).1
    refine ⟨Nat.le_succ_of_le within, ?_⟩
    intro missing
    exact (before.2 row isRow).2 ((fresh row.id within).symm.trans missing)

theorem intent (ref : Ref) (arguments : Fields)
    (harmless : Harmless env ⟨orchestrator, calls, submitted⟩ (.intent ref arguments)) :
    Guarded (orchestrator.requestApproval env ref arguments) calls submitted := by
  unfold Orchestrator.requestApproval
  cases isRun : orchestrator.objects[ref]? with
  | none => exact guarded
  | some run =>
    dsimp only
    split
    · rename_i isSome
      rcases Option.isSome_iff_exists.mp isSome with ⟨approval, created⟩
      have sameId := (Untouched.approval_dispatchSubmitIntent created).1
      have modified : Guarded (orchestrator.modify ref (fun _ =>
          (dispatchSubmitIntent env run arguments (orchestrator.approvalSequence + 1)).1))
          calls submitted := by
        apply guarded.modify isRun sameId
        · intro member isRef
          exact absurd member (harmless run isRun isRef isSome).2.1
        · intro member isRef
          have free := harmless run isRun isRef isSome
          rcases (guarded.kept run.id member ref run isRef isRun).2 with numbering | written
          · exact absurd numbering free.2.2
          · rw [free.1] at written
            cases written
      exact modified.of_same rfl (fun _ => rfl) rfl rfl
    · exact guarded

theorem crash {carriedOut : List RunId}
    (harmless : ∀ runId ∈ submitted ++ carriedOut, ∃ row, orchestrator.stored.get? runId = some row ∧ row.isRecorded)
    :
    Guarded orchestrator.restart [] (submitted ++ carriedOut) := by
  constructor
  · intro runId ref found
    cases found
  · intro ref run isRun
    cases isRun
  · exact guarded.keys
  · intro runId member
    rcases harmless runId member with ⟨row, isRow, _⟩
    exact (guarded.keys runId row isRow).2
  · intro call isCall
    cases isCall
  · exact List.nodup_nil
  · intro runId _ inside
    cases inside
  · intro runId inside
    cases inside
  · intro runId _ ref run found
    cases found
  · intro runId member
    exact .inl (harmless runId member)
  · intro query purpose isCall
    cases isCall
  · intro rows purpose isCall
    cases isCall

theorem saves (isRun : orchestrator.objects[ref]? = some run)
    (harmless : orchestrator.runsById.get? run.id = some ref ∨ Interleaved.Replaceable ⟨orchestrator, calls, submitted⟩ run) :
    Guarded (orchestrator.rememberRun ref run) (calls ++ [.saving ref run.id]) submitted := by
  have remembered : Guarded (orchestrator.rememberRun ref run) calls submitted := by
    rcases harmless with isRef | replaceable
    · exact guarded.remember isRef
    · have adoptable : Adoptable orchestrator calls run := by
        have known := guarded.known ref run isRun
        constructor
        · exact known.2
        · exact replaceable.1
        · exact replaceable.2
        · intro missing
          rw [missing] at known
          cases known.1
      exact guarded.place adoptable (fun _ _ found => found) (fun _ _ found => .inl found) isRun
  apply remembered.add_saving
  change (orchestrator.runsById.set run.id ref).get? run.id = some ref
  rw [OrderedMap.get?_set, if_pos rfl]

end

theorem perform (guarded : Guarded state.orchestrator state.calls state.submitted) {turn : Turn}
    (possible : turn.isPossible state) (harmless : Harmless env state turn) :
    Guarded (state.perform env turn).orchestrator (state.perform env turn).calls
      (state.perform env turn).submitted := by
  cases turn with
  | begin workspaceId actorUserId attachments =>
    exact guarded.begin workspaceId actorUserId attachments
  | intent ref arguments => exact guarded.intent ref arguments harmless
  | touch ref after =>
    rcases possible with ⟨run, isRun, untouched⟩
    exact guarded.touch isRun untouched
  | save ref =>
    unfold Interleaved.perform
    dsimp only
    cases isRun : state.orchestrator.objects[ref]? with
    | none => exact guarded
    | some run => exact guarded.saves isRun (harmless run isRun)
  | ask query purpose => exact guarded.ask possible harmless
  | returns call answer => exact guarded.returns answer possible harmless
  | crash carriedOut => exact guarded.crash harmless

theorem oneSubmission (guarded : Guarded state.orchestrator state.calls state.submitted) :
    OneSubmission state := by
  constructor
  · exact guarded.single
  · exact guarded.notAgain
  · intro runId member
    unfold Interleaved.copyOf
    cases isRef : state.orchestrator.runsById.get? runId with
    | some ref =>
      rcases guarded.registered runId ref isRef with ⟨run, isRun, _⟩
      exact ⟨run, isRun, guarded.kept runId member ref run isRef isRun⟩
    | none =>
      rcases guarded.stored runId member with ⟨row, isRow, recorded⟩ | recording
      · exact ⟨row, isRow, recorded.1, .inr recorded.2⟩
      · rcases List.mem_filterMap.mp recording with ⟨call, isCall, records⟩
        rcases holds_of_records records with ⟨ref, holds⟩
        rw [guarded.holds call isCall ref runId holds] at isRef
        cases isRef
  · intro runId member quiet
    rcases guarded.stored runId member with row | recording
    · exact row
    · rcases List.mem_filterMap.mp recording with ⟨call, isCall, records⟩
      rcases holds_of_records records with ⟨ref, holds⟩
      exact absurd holds (quiet call isCall ref)

end Guarded

theorem guarded_empty :
    Guarded emptyInterleaved.orchestrator emptyInterleaved.calls emptyInterleaved.submitted :=
  { registered := fun _ _ found => by cases found
    known := fun _ _ isRun => by cases isRun
    keys := fun _ _ found => by cases found
    counted := fun _ member => by cases member
    holds := fun _ isCall => by cases isCall
    single := List.nodup_nil
    notAgain := fun _ member => by cases member
    opened := fun _ member => by cases member
    kept := fun _ member => by cases member
    stored := fun _ member => by cases member
    asked := fun _ _ isCall => by cases isCall
    loaded := fun _ _ isCall => by cases isCall }

theorem performed_turn {before after : Interleaved} {turn : Turn}
    (step : Interleaves env before turn after) :
    turn.isPossible before ∧ after = before.perform env turn := by
  cases step with
  | turn possible => exact ⟨possible, rfl⟩

/-- When no turn does harm, a run is submitted once, and what was carried out is not
forgotten. -/
theorem one_submission {trace : List (Move Interleaved Turn)} {last : Interleaved}
    (runs : Run (Interleaves env) emptyInterleaved trace last)
    (harmless : ∀ move ∈ trace, Harmless env move.before move.label) : OneSubmission last := by
  have guarded : Guarded last.orchestrator last.calls last.submitted := by
    apply runs.keeps (fun state => Guarded state.orchestrator state.calls state.submitted)
    · intro move member step held
      have harmlessHere := harmless move member
      rcases performed_turn step with ⟨possible, after⟩
      rcases move with ⟨before, turn, last⟩
      dsimp only at after possible held harmlessHere
      subst after
      exact held.perform possible harmlessHere
    · exact guarded_empty
  exact guarded.oneSubmission

/-! ### Two interleavings -/

/-- An environment whose hashes tell the number of fields. -/
def briefEnvironment : Environment :=
  { plainEnvironment with
    hashPayload := fun payload => String.ofList (payload.map (fun _ => 'h')) }

/-- A run after a tool call that the connector has answered. -/
def afterTool (run : ReimbursementRun) (toolName : String) (result : Fields) : ReimbursementRun :=
  (dispatchTool briefEnvironment run [] toolName [("draft", .obj meal)] 1 (.ok result)).1

def validatedRun : ReimbursementRun :=
  afterTool (newRun 1 "w" "u" []) "reimbursement.validate_draft"
    [("valid", .bool true), ("policy_summary", .str "meals"), ("risk_level", .str "low")]

def readyRun : ReimbursementRun :=
  afterTool validatedRun "reimbursement.create_draft"
    [("external_reimbursement_id", .str "e1"), ("external_status", .str "draft")]

def sent : Answer :=
  .ok [("external_reimbursement_id", .str "e1"), ("external_status", .str "sent")]

/-- A run that waits for its approval. -/
def askedTurns : List Turn :=
  [.begin "w" "u" [], .touch 0 validatedRun, .touch 0 readyRun,
    .intent 0 (("external_reimbursement_id", .str "e1") :: meal)]

def approveTurn : Turn := .ask (.approval 1) (.approve 1 "u")

def afterTurns (turns : List Turn) : Interleaved :=
  turns.foldl (fun state turn => state.perform briefEnvironment turn) emptyInterleaved

theorem untouched_afterTool (run : ReimbursementRun) {toolName : String}
    (other : toolName ≠ "reimbursement.submit_intent") (result : Fields) :
    Untouched run (afterTool run toolName result) :=
  Untouched.dispatchTool run [] other _ 1 _

def Respects (env : Environment) (P : Interleaved → Turn → Prop) :
    Interleaved → List Turn → Prop
  | _, [] => True
  | state, turn :: rest =>
    turn.isPossible state ∧ P state turn ∧ Respects env P (state.perform env turn) rest

theorem runs_turns {P : Interleaved → Turn → Prop} {turns : List Turn}
    (respects : Respects env P state turns) :
    ∃ trace, Run (Interleaves env) state trace
        (turns.foldl (fun state turn => state.perform env turn) state) ∧
      ∀ move ∈ trace, P move.before move.label := by
  induction turns generalizing state with
  | nil =>
    refine ⟨[], .nil state, ?_⟩
    intro move member
    cases member
  | cons turn rest ih =>
    rcases respects with ⟨possible, here, later⟩
    rcases ih later with ⟨trace, runs, respected⟩
    refine ⟨_, .cons (.turn state turn possible) runs, ?_⟩
    intro move member
    rcases List.mem_cons.mp member with first | inside
    · rw [first]
      exact here
    · exact respected move inside

def firstSubmit : Call := .submitting 0 1 1

/-- The approval, and the calls up to the row that is saved. -/
def submitTurns : List Turn :=
  [approveTurn, .returns firstSubmit sent, .returns (.numbering 0 1 1) sent,
    .returns (.verifying 0 1) sent, .returns (.saving 0 1) sent]

theorem validated_untouched : Untouched (newRun 1 "w" "u" []) validatedRun :=
  untouched_afterTool _ (by simp) _

theorem ready_untouched : Untouched validatedRun readyRun :=
  untouched_afterTool _ (by simp) _

theorem of_map_object {α : Type} {state : Interleaved} {ref : Ref} {f : ReimbursementRun → α}
    {value : α} (computed : (state.orchestrator.objects[ref]?).map f = some value)
    {run : ReimbursementRun} (isRun : state.orchestrator.objects[ref]? = some run) :
    f run = value := by
  rw [isRun] at computed
  exact Option.some.inj computed

theorem decidesCurrent_of {state : Interleaved} {approvalId : ApprovalId} {ref : Ref}
    {runId : RunId} {goesOn : ReimbursementRun → Bool}
    (isFound : state.orchestrator.runsByApprovalId.get? approvalId = some ref)
    (isObject : (state.orchestrator.objects[ref]?).map ReimbursementRun.id = some runId)
    (isRef : state.orchestrator.runsById.get? runId = some ref)
    (notSubmitting : runId ∉ state.submitting) (notNumbering : runId ∉ state.numbering) :
    state.DecidesCurrent approvalId goesOn := by
  intro other run isOther isRun _
  rw [isFound] at isOther
  cases isOther
  rw [of_map_object isObject isRun]
  exact ⟨isRef, notSubmitting, notNumbering⟩

theorem harmless_submit :
    Respects briefEnvironment (Harmless briefEnvironment) emptyInterleaved
      (askedTurns ++ submitTurns) := by
  refine ⟨trivial, trivial, ⟨_, rfl, validated_untouched⟩, trivial, ⟨_, rfl, ready_untouched⟩,
    trivial, trivial, ?_, ?_⟩
  · intro run isRun _ _
    have noWrite : run.writeAction = none :=
      @of_map_object _ _ 0 ReimbursementRun.writeAction none (by decide +kernel) run isRun
    refine ⟨noWrite, ?_, ?_⟩
    · change run.id ∉ []
      exact List.not_mem_nil
    · change run.id ∉ []
      exact List.not_mem_nil
  · refine ⟨rfl, ?_, ?_, ?_⟩
    · apply @decidesCurrent_of _ 1 0 1
      · decide +kernel
      · decide +kernel
      · decide +kernel
      · exact List.not_mem_nil
      · exact List.not_mem_nil
    · change firstSubmit ∈ Interleaved.calls _
      decide +kernel
    · refine ⟨⟨rfl, rfl⟩, ?_, ?_, ?_⟩
      · change Call.numbering 0 1 1 ∈ Interleaved.calls _
        decide +kernel
      · intro run isRun
        refine ⟨"e1", ?_, by decide +kernel⟩
        exact @of_map_object _ _ 0 (fun run => run.draft.externalReimbursementId) _
          (by decide +kernel) run isRun
      · refine ⟨?_, trivial, ?_, trivial, trivial⟩
        · change Call.verifying 0 1 ∈ Interleaved.calls _
          decide +kernel
        · change Call.saving 0 1 ∈ Interleaved.calls _
          decide +kernel

theorem one_submission_carried_out :
    (afterTurns (askedTurns ++ submitTurns)).submitted = [1] ∧
      OneSubmission (afterTurns (askedTurns ++ submitTurns)) := by
  refine ⟨by decide +kernel, ?_⟩
  rcases runs_turns harmless_submit with ⟨trace, runs, harmless⟩
  exact one_submission runs harmless

def waitingRows : List ReimbursementRun :=
  ((afterTurns (askedTurns ++ [.save 0, .returns (.saving 0 1) sent])).orchestrator.rows
    briefEnvironment (.all "w" "u")).getD []

def listedTurns : List Turn :=
  [.save 0, .returns (.saving 0 1) sent, approveTurn, .ask (.all "w" "u") .read,
    .returns (.reading (.all "w" "u") .read) sent, .returns (.loaded waitingRows .read) sent,
    approveTurn]

theorem possible_listed :
    Respects briefEnvironment (fun _ _ => True) emptyInterleaved (askedTurns ++ listedTurns) := by
  refine ⟨trivial, trivial, ⟨_, rfl, validated_untouched⟩, trivial, ⟨_, rfl, ready_untouched⟩,
    trivial, trivial, trivial, trivial, trivial, ?_, trivial, rfl, trivial, rfl, trivial, ?_,
    trivial, ?_, trivial, rfl, trivial, trivial⟩
  · change Call.saving 0 1 ∈ Interleaved.calls _
    decide +kernel
  · change Call.reading (.all "w" "u") .read ∈ Interleaved.calls _
    decide +kernel
  · change Call.loaded waitingRows .read ∈ Interleaved.calls _
    decide +kernel

/-- The copy that `list_runs` has read is approved while the run is submitted. -/
theorem listed_run_is_submitted_twice :
    ¬ ∀ (env : Environment) (trace : List (Move Interleaved Turn)) (last : Interleaved),
      Run (Interleaves env) emptyInterleaved trace last → OneSubmission last := by
  intro claimed
  rcases runs_turns possible_listed with ⟨trace, runs, _⟩
  have single := (claimed briefEnvironment trace _ runs).single
  have twice : (afterTurns (askedTurns ++ listedTurns)).submitting = [1, 1] := by decide +kernel
  change (afterTurns (askedTurns ++ listedTurns)).submitting.Nodup at single
  rw [twice] at single
  simp at single

end AnnaAgent.Reimbursement
