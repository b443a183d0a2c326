/-
What the functions on a run leave alone.

Only `submit_intent` and the decisions of the user change the approval of a run,
and only `approve_submit` and the readback change its write action.
-/

import AnnaAgent.Reimbursement.Orchestrator

namespace AnnaAgent.Reimbursement

open Foundation

structure Untouched (before after : ReimbursementRun) : Prop where
  id : after.id = before.id
  approval : after.approval = before.approval
  writeAction : after.writeAction = before.writeAction

namespace Untouched

variable {env : Environment} {run : ReimbursementRun}

theorem refl (run : ReimbursementRun) : Untouched run run :=
  ⟨rfl, rfl, rfl⟩

theorem trans {first middle last : ReimbursementRun} (early : Untouched first middle)
    (late : Untouched middle last) : Untouched first last :=
  ⟨late.id.trans early.id, late.approval.trans early.approval,
    late.writeAction.trans early.writeAction⟩

section

variable (run : ReimbursementRun)

theorem audited (kind : String) (payload : Fields) : Untouched run (run.audited kind payload) :=
  ⟨rfl, rfl, rfl⟩

theorem failRun (errorCode message : String) : Untouched run (run.failRun errorCode message) :=
  ⟨rfl, rfl, rfl⟩

theorem recordToolCalled (toolName : String) (input : Fields) (status : String)
    (error : Option McpError) :
    Untouched run (run.recordToolCalled env toolName input status error) :=
  ⟨rfl, rfl, rfl⟩

theorem recordPolicyCheck (toolName : String) (result : Fields) :
    Untouched run (recordPolicyCheck run toolName result) :=
  ⟨rfl, rfl, rfl⟩

theorem missingFieldsSuspend : Untouched run (missingFieldsSuspend run).1 :=
  ⟨rfl, rfl, rfl⟩

theorem settle (result : Fields) : Untouched run (settle env run result).1 :=
  ⟨rfl, rfl, rfl⟩

end

theorem mergedDraftError (run : ReimbursementRun) (requiredFields : List String)
    (toolName : String) (merged : Fields) :
    Untouched run (mergedDraftError env run requiredFields toolName merged).1 := by
  unfold Reimbursement.mergedDraftError
  split
  · split
    · exact refl run
    · exact ⟨rfl, rfl, rfl⟩
  · split
    · exact refl run
    · split
      · exact refl run
      · dsimp only
        split
        · exact ⟨rfl, rfl, rfl⟩
        · split
          · exact refl run
          · exact refl run

theorem preflight (run : ReimbursementRun) (requiredFields : List String) (toolName : String)
    (arguments : Fields) :
    Untouched run (modelToolPreflightError env run requiredFields toolName arguments).1 := by
  unfold modelToolPreflightError
  split
  · exact refl run
  · split
    · split
      · exact refl run
      · exact mergedDraftError run requiredFields toolName _
    · exact refl run

variable {arguments : Fields} {after : ReimbursementRun}

theorem draftForTool {toolName : String}
    (drafted : draftForTool env run toolName arguments = some after) : Untouched run after := by
  unfold Reimbursement.draftForTool at drafted
  split at drafted
  · split at drafted
    · rcases Option.map_eq_some_iff.mp drafted with ⟨draft, _, same⟩
      rw [← same]
      exact ⟨rfl, rfl, rfl⟩
    · cases drafted
      exact refl run
  · cases drafted
    exact refl run

theorem recordValidatedDraft (run : ReimbursementRun) (arguments result : Fields) :
    Untouched run (recordValidatedDraft env run arguments result) := by
  unfold Reimbursement.recordValidatedDraft
  split
  · split
    · exact audited run _ _
    · exact refl run
  · exact refl run

theorem validatedDraft (run : ReimbursementRun) (arguments result : Fields) :
    Untouched run (validatedDraft env run arguments result).1 := by
  have checked := recordPolicyCheck run "reimbursement.validate_draft" result
  unfold Reimbursement.validatedDraft
  dsimp only
  split
  · exact checked.trans (recordValidatedDraft _ arguments result)
  · split
    · split
      · exact checked
      · exact ⟨rfl, rfl, rfl⟩
    · exact ⟨rfl, rfl, rfl⟩

theorem resultReceived (run : ReimbursementRun) (toolName : String) (arguments result : Fields) :
    Untouched run (resultReceived env run toolName arguments result).1 := by
  have called := @recordToolCalled env run toolName arguments "success" none
  unfold Reimbursement.resultReceived
  dsimp only
  split
  · exact ⟨rfl, rfl, rfl⟩
  · split
    · have validated := called.trans (@validatedDraft env _ arguments result)
      split
      · rename_i ended dispatched stops
        rw [stops] at validated
        exact validated
      · rename_i valid goesOn
        rw [goesOn] at validated
        exact validated.trans (settle _ result)
    · split
      · exact ⟨rfl, rfl, rfl⟩
      · exact ⟨rfl, rfl, rfl⟩

theorem callTool (run : ReimbursementRun) (toolName : String) (arguments : Fields)
    (answer : Answer) : Untouched run (callTool env run toolName arguments answer).1 := by
  unfold Reimbursement.callTool
  split
  · exact refl run
  · split
    · exact refl run
    · rename_i drafted draftedIs
      have sameRun := draftForTool draftedIs
      dsimp only
      split
      · exact sameRun.trans ⟨rfl, rfl, rfl⟩
      · exact sameRun.trans (resultReceived _ _ _ _)

theorem dispatchTool (run : ReimbursementRun) (requiredFields : List String) {toolName : String}
    (other : toolName ≠ "reimbursement.submit_intent") (arguments : Fields)
    (approvalId : ApprovalId) (answer : Answer) :
    Untouched run (dispatchTool env run requiredFields toolName arguments approvalId answer).1 := by
  have checked := @preflight env run requiredFields toolName arguments
  unfold Reimbursement.dispatchTool
  rw [if_neg other]
  split
  · rename_i refused
    rw [refused] at checked
    split
    · exact checked.trans (missingFieldsSuspend _)
    · exact checked
  · rename_i raised
    rw [raised] at checked
    exact checked
  · rename_i passed
    rw [passed] at checked
    exact checked.trans (callTool _ _ _ _)

theorem dispatchSubmitIntent {approvalId : ApprovalId}
    (nothing : requestedApproval env run arguments approvalId = none) :
    Untouched run (dispatchSubmitIntent env run arguments approvalId).1 := by
  unfold requestedApproval at nothing
  unfold Reimbursement.dispatchSubmitIntent
  dsimp only at nothing ⊢
  split
  · exact refl run
  · exact refl run
  · rename_i passed
    rw [passed] at nothing
    cases nothing

theorem approval_dispatchSubmitIntent {approvalId : ApprovalId} {approval : ApprovalRequest}
    (created : requestedApproval env run arguments approvalId = some approval) :
    (Reimbursement.dispatchSubmitIntent env run arguments approvalId).1.id = run.id ∧
      (Reimbursement.dispatchSubmitIntent env run arguments approvalId).1.approval = some approval ∧
      (Reimbursement.dispatchSubmitIntent env run arguments approvalId).1.writeAction =
        run.writeAction := by
  have same := approval_of_requested created
  unfold requestedApproval at created
  unfold Reimbursement.dispatchSubmitIntent
  dsimp only at created ⊢
  split at created
  · rename_i passed
    rw [passed, same]
    exact ⟨rfl, rfl, rfl⟩
  · cases created

theorem recordAnswers (run : ReimbursementRun) (answers : Fields) :
    Untouched run (recordAnswers env run answers) := by
  unfold Reimbursement.recordAnswers
  split
  · exact refl run
  · split
    · exact ⟨rfl, rfl, rfl⟩
    · exact ⟨rfl, rfl, rfl⟩

theorem proposedDraft {result : Fields} (proposed : proposedDraft env run result = some after) :
    Untouched run after := by
  unfold Reimbursement.proposedDraft at proposed
  split at proposed
  · dsimp only at proposed
    split at proposed
    · cases proposed
      exact refl run
    · rcases Option.map_eq_some_iff.mp proposed with ⟨draft, _, same⟩
      rw [← same]
      exact ⟨rfl, rfl, rfl⟩
  · cases proposed
    exact refl run

theorem applyCompletedResult (run : ReimbursementRun) (result : Fields) :
    Untouched run (applyCompletedResult env run result) := by
  unfold Reimbursement.applyCompletedResult
  split
  · exact failRun run _ _
  · rename_i drafted proposed
    have sameRun := proposedDraft proposed
    extract_lets missing
    have kept : Untouched run missing := by
      unfold missing
      split
      · exact sameRun.trans ⟨rfl, rfl, rfl⟩
      · exact sameRun
    split
    · exact kept.trans (failRun _ _ _)
    · split
      · exact kept.trans (failRun _ _ _)
      · split
        · exact kept.trans (failRun _ _ _)
        · exact kept.trans ⟨rfl, rfl, rfl⟩

theorem applyHostResult {result : Fields} {hostStatus : String}
    (applied : applyHostResult env run result hostStatus = some after) : Untouched run after := by
  unfold Reimbursement.applyHostResult at applied
  split at applied
  · cases applied
    exact refl run
  · split at applied
    · split at applied
      · cases applied
        exact ⟨rfl, rfl, rfl⟩
      · cases applied
        exact failRun run _ _
    · split at applied
      · split at applied
        · cases applied
        · split at applied
          · cases applied
            exact failRun run _ _
          · cases applied
            exact ⟨rfl, rfl, rfl⟩
      · cases applied
        exact applyCompletedResult run result

end Untouched

end AnnaAgent.Reimbursement
