/-
The external draft of a run.

Once `create_draft` has returned an external id the draft holds it, as long as no later
call asks for missing fields and every later `create_draft` is answered with an id.
The fields beside it are those of the draft that was sent, until an answer or a result
of the host changes them.
-/

import AnnaAgent.Reimbursement.Orchestrator
import AnnaAgent.Reimbursement.ShownRisk

namespace AnnaAgent.Reimbursement

open Foundation Fields

/-- A run, the id that `create_draft` has last returned while no submit has returned
one, the draft that was sent then, and whether it has been edited since. -/
structure DraftHistory where
  run : ReimbursementRun
  external : Option Json
  sent : ReimbursementDraft
  edited : Bool

/-- The draft that a call of `create_draft` sends and the id that the connector
answers. -/
def ToolCall.created (env : Environment) (run : ReimbursementRun) (call : ToolCall) :
    Option (ReimbursementDraft × Fields) :=
  if call.toolName ≠ "reimbursement.create_draft" then none
  else
    match modelToolPreflightError env run call.requiredFields call.toolName call.arguments,
        call.answer with
    | (checked, arguments, .passed), .ok result =>
      (draftForTool env checked call.toolName arguments).map
        (fun drafted => (drafted.draft, result))
    | _, _ => none

def DraftHistory.called (env : Environment) (history : DraftHistory) (call : ToolCall) :
    DraftHistory :=
  let after := (dispatchTool env history.run call.requiredFields call.toolName call.arguments
    call.approvalId call.answer).1
  match call.created env history.run with
  | none => { history with run := after }
  | some (draft, result) =>
    { run := after
      external :=
        if get result "external_reimbursement_id" = .null then history.external
        else some (get result "external_reimbursement_id")
      sent := draft
      edited := false }

inductive DraftStep (env : Environment) :
    DraftHistory → Option ToolCall → DraftHistory → Prop
  | called {history : DraftHistory} (call : ToolCall) :
      DraftStep env history (some call) (history.called env call)
  | answered {history : DraftHistory} (answers : Fields) :
      DraftStep env history none
        { history with
          run := recordAnswers env history.run answers
          edited := true }
  | hostResult {history : DraftHistory} {result : Fields} {hostStatus : String}
      {run : ReimbursementRun} (applied : applyHostResult env history.run result hostStatus = some run) :
      DraftStep env history none
        { history with
          run := run
          edited := true }
  | submitted {history : DraftHistory} (approvalId : ApprovalId) (writeId : Nat) (result : Fields)
      (returned : (result.lookup "external_reimbursement_id").isSome = true) :
      DraftStep env history none
        { history with
          run := (submitReceived env history.run approvalId writeId result).1
          external := none }
  /-- Messages, notes, failures, decisions and readbacks. -/
  | aside {history : DraftHistory} {run : ReimbursementRun}
      (sameDraft : run.draft = history.run.draft) :
      DraftStep env history none { history with run := run }

/-- The draft without what the connector owns. -/
def ReimbursementDraft.fields (draft : ReimbursementDraft) : ReimbursementDraft :=
  { draft with
    externalReimbursementId := .null
    externalStatus := .null }

def DraftHistory.HoldsSent (history : DraftHistory) : Prop :=
  ∀ externalId, history.external = some externalId →
    history.run.draft.externalReimbursementId = externalId ∧
      history.run.draft.fields = history.sent.fields

def DraftHistory.Holds (history : DraftHistory) : Prop :=
  ∀ externalId, history.external = some externalId →
    history.run.draft.externalReimbursementId = externalId ∧
      (history.edited = false → history.run.draft.fields = history.sent.fields)

structure ToolCall.Spares (env : Environment) (run : ReimbursementRun) (call : ToolCall) :
    Prop where
  complete : ∀ message,
    (modelToolPreflightError env run call.requiredFields call.toolName call.arguments).2.2 ≠
      .refused "required_fields_missing" message
  validated : call.toolName = "reimbursement.validate_draft" →
    ∀ result, call.answer = .ok result → toolMissingFields env result = []
  created : call.toolName = "reimbursement.create_draft" →
    (modelToolPreflightError env run call.requiredFields call.toolName call.arguments).2.2 =
        .passed →
      ∃ result, call.answer = .ok result ∧ get result "external_reimbursement_id" ≠ .null

def SparesHeld (env : Environment) (move : Move DraftHistory (Option ToolCall)) : Prop :=
  ∀ call, move.label = some call → move.before.external ≠ none →
    call.Spares env move.before.run

def Environment.ReadsExternalId (env : Environment) : Prop :=
  ∀ fields draft, env.validateDraft fields = some draft →
    draft.externalReimbursementId = get fields "external_reimbursement_id"

variable {env : Environment} {run : ReimbursementRun} {call : ToolCall}
  {requiredFields : List String} {toolName : String}

theorem draft_mergedDraftError {merged : Fields}
    (complete : ∀ message, (mergedDraftError env run requiredFields toolName merged).2 ≠ .refused "required_fields_missing" message) :
    (mergedDraftError env run requiredFields toolName merged).1 = run := by
  unfold mergedDraftError at complete ⊢
  split
  · rename_i unimported
    rw [if_pos unimported] at complete
    split
    · rfl
    · rename_i draft isDraft
      rw [isDraft] at complete
      exact absurd rfl (complete _)
  · rename_i imported
    rw [if_neg imported] at complete
    split
    · rfl
    · rename_i creates
      rw [if_neg creates] at complete
      split
      · rfl
      · rename_i draft isDraft
        rw [isDraft] at complete
        dsimp only at complete ⊢
        split
        · rename_i missing
          rw [if_pos missing] at complete
          exact absurd rfl (complete _)
        · split
          · rfl
          · rfl

theorem draft_preflight {arguments : Fields}
    (complete : ∀ message, (modelToolPreflightError env run requiredFields toolName arguments).2.2 ≠ .refused "required_fields_missing" message) :
    (modelToolPreflightError env run requiredFields toolName arguments).1 = run := by
  unfold modelToolPreflightError at complete ⊢
  split
  · rfl
  · rename_i checks
    rw [if_neg checks] at complete
    split
    · rename_i draft isDraft
      rw [isDraft] at complete
      dsimp only at complete ⊢
      split
      · rfl
      · rename_i plain
        rw [if_neg plain] at complete
        exact draft_mergedDraftError complete
    · rfl

theorem draft_resultReceived {arguments result : Fields}
    (other : toolName ≠ "reimbursement.create_draft")
    (validated : toolName = "reimbursement.validate_draft" → toolMissingFields env result = []) :
    (resultReceived env run toolName arguments result).1.draft = run.draft := by
  unfold resultReceived
  dsimp only
  split
  · rfl
  · split
    · rename_i validates
      unfold validatedDraft recordValidatedDraft
      dsimp only
      rw [if_pos (validated validates)]
      dsimp only
      split
      · split
        · rfl
        · rfl
      · rfl
    · rfl

theorem draft_spared (spares : call.Spares env run) (nothing : call.created env run = none) :
    (dispatchTool env run call.requiredFields call.toolName call.arguments call.approvalId
      call.answer).1.draft = run.draft := by
  have same := draft_preflight spares.complete
  have complete := spares.complete
  have created := spares.created
  unfold ToolCall.created at nothing
  unfold dispatchTool
  split
  · unfold dispatchSubmitIntent
    dsimp only
    split
    · rfl
    · rfl
    · rfl
  · generalize modelToolPreflightError env run call.requiredFields call.toolName
      call.arguments = checked at same complete created nothing
    rcases checked with ⟨after, arguments, verdict⟩
    dsimp only at same complete created nothing ⊢
    subst same
    cases verdict with
    | refused errorCode message =>
      dsimp only
      rw [if_neg (fun missing => complete message (by rw [missing]))]
    | raised => rfl
    | passed =>
      dsimp only
      unfold callTool
      split
      · rfl
      · by_cases creates : call.toolName = "reimbursement.create_draft"
        · rcases created creates rfl with ⟨result, isResult, _⟩
          rw [if_neg (not_not_intro creates), isResult] at nothing
          rw [Option.map_eq_none_iff.mp nothing]
        · have sameRun : draftForTool env after call.toolName arguments = some after :=
            if_neg creates
          rw [sameRun]
          dsimp only
          split
          · rfl
          · rename_i result isResult
            apply draft_resultReceived creates
            intro validates
            apply spares.validated validates
            have noError : currentExternalIdError env after call.toolName arguments = none :=
              if_pos (by rw [validates]; decide)
            rw [noError] at isResult
            exact isResult

variable {draft : ReimbursementDraft}

/-- A draft that was sent holds what the connector has answered. -/
theorem draft_created {result : Fields} (created : call.created env run = some (draft, result)) :
    (dispatchTool env run call.requiredFields call.toolName call.arguments call.approvalId
      call.answer).1.draft =
        { draft with
          externalReimbursementId := get result "external_reimbursement_id"
          externalStatus := get result "external_status" } := by
  rcases call with ⟨requiredFields, toolName, arguments, approvalId, answer⟩
  unfold ToolCall.created at created
  dsimp only at created ⊢
  split at created
  · cases created
  · rename_i creates
    rw [not_not] at creates
    subst creates
    unfold dispatchTool
    rw [if_neg (by decide)]
    split at created
    · rename_i checked given result' isChecked
      rw [isChecked]
      rcases Option.map_eq_some_iff.mp created with ⟨drafted, isDrafted, same⟩
      cases same
      have noError : currentExternalIdError env drafted "reimbursement.create_draft" given = none :=
        if_pos (by decide)
      unfold callTool
      dsimp only
      rw [if_neg (by decide), isDrafted]
      dsimp only
      rw [noError]
      rfl
    · cases created

theorem created_spec {result : Fields} (created : call.created env run = some (draft, result)) :
    call.toolName = "reimbursement.create_draft" ∧
      (modelToolPreflightError env run call.requiredFields call.toolName call.arguments).2.2 =
          .passed ∧ call.answer = .ok result := by
  unfold ToolCall.created at created
  split at created
  · cases created
  · rename_i creates
    split at created
    · rename_i isChecked isAnswer
      rcases Option.map_eq_some_iff.mp created with ⟨_, _, same⟩
      cases same
      rw [isChecked]
      exact ⟨not_not.mp creates, rfl, isAnswer⟩
    · cases created

/-! ### Answers and results of the host -/

theorem external_applyAnswer {after : ReimbursementDraft} {field : String} {value : Json}
    (answered : applyAnswer env draft field value = some after) :
    after.externalReimbursementId = draft.externalReimbursementId := by
  unfold applyAnswer at answered
  split at answered
  · cases answered
    unfold setDraftField
    split
    all_goals rfl
  · split at answered
    · split at answered
      · cases answered
      · split at answered
        · cases answered
          rfl
        · cases answered
    · cases answered

theorem external_applyAnswers (draft : ReimbursementDraft) (answers : Fields) :
    (applyAnswers env draft answers).1.externalReimbursementId = draft.externalReimbursementId := by
  induction answers generalizing draft with
  | nil => rfl
  | cons answer rest ih =>
    unfold applyAnswers
    split
    · rfl
    · rename_i answered isAnswered
      exact (ih answered).trans (external_applyAnswer isAnswered)

theorem external_recordAnswers (answers : Fields) :
    (recordAnswers env run answers).draft.externalReimbursementId =
      run.draft.externalReimbursementId := by
  have kept := @external_applyAnswers env run.draft answers
  unfold recordAnswers
  split
  · rfl
  · split
    · rename_i isDraft
      rw [isDraft] at kept
      exact kept
    · rename_i isDraft
      rw [isDraft] at kept
      exact kept

theorem get_foldl_setField {key : String} {fields : Fields} (base : Fields)
    (others : ∀ field ∈ fields, key ≠ field.1) :
    get (fields.foldl Json.setField base) key = get base key := by
  induction fields generalizing base with
  | nil => rfl
  | cons field rest ih =>
    rw [List.foldl_cons, ih _ (fun other member => others other (List.mem_cons_of_mem _ member))]
    exact get_setField_other base (others field List.mem_cons_self) field.2

variable {result : Fields} {after : ReimbursementRun}

theorem external_proposedDraft (reads : env.ReadsExternalId)
    (proposed : proposedDraft env run result = some after) :
    after.draft.externalReimbursementId = run.draft.externalReimbursementId := by
  unfold proposedDraft at proposed
  split at proposed
  · dsimp only at proposed
    split at proposed
    · cases proposed
      rfl
    · rcases Option.map_eq_some_iff.mp proposed with ⟨draft, isDraft, same⟩
      rw [← same]
      refine (reads _ _ isDraft).trans (get_foldl_setField _ ?_)
      intro field member sameKey
      have editable := of_decide_eq_true (List.mem_filter.mp member).2
      rw [← sameKey] at editable
      revert editable
      decide
  · cases proposed
    rfl

theorem external_applyCompletedResult (reads : env.ReadsExternalId) :
    (applyCompletedResult env run result).draft.externalReimbursementId =
      run.draft.externalReimbursementId := by
  unfold applyCompletedResult
  split
  · rfl
  · rename_i drafted proposed
    extract_lets missing
    have kept : missing.draft.externalReimbursementId = run.draft.externalReimbursementId := by
      rw [← external_proposedDraft reads proposed]
      unfold missing
      split
      · rfl
      · rfl
    split
    · exact kept
    · split
      · exact kept
      · split
        · exact kept
        · exact kept

theorem external_applyHostResult (reads : env.ReadsExternalId) {hostStatus : String}
    (applied : applyHostResult env run result hostStatus = some after) :
    after.draft.externalReimbursementId = run.draft.externalReimbursementId := by
  unfold applyHostResult at applied
  split at applied
  · cases applied
    rfl
  · split at applied
    · split at applied
      · cases applied
        rfl
      · cases applied
        rfl
    · split at applied
      · split at applied
        · cases applied
        · split at applied
          · cases applied
            rfl
          · cases applied
            rfl
      · cases applied
        exact external_applyCompletedResult reads

theorem DraftHistory.Holds.step (reads : env.ReadsExternalId) {before after : DraftHistory}
    {label : Option ToolCall} (holds : before.Holds) (step : DraftStep env before label after)
    (spares : SparesHeld env ⟨before, label, after⟩) : after.Holds := by
  cases step with
  | called call =>
    intro externalId isExternal
    unfold DraftHistory.called at isExternal ⊢
    dsimp only at isExternal ⊢
    cases created : call.created env before.run with
    | none =>
      rw [created] at isExternal
      have held : before.external ≠ none := by
        intro none
        cases none.symm.trans isExternal
      dsimp only
      rw [draft_spared (spares call rfl held) created]
      exact holds externalId isExternal
    | some sent =>
      rcases sent with ⟨draft, result⟩
      rw [created] at isExternal
      dsimp only at isExternal ⊢
      rw [draft_created created]
      split at isExternal
      · rename_i isNull
        have held : before.external ≠ none := by
          intro none
          cases none.symm.trans isExternal
        rcases created_spec created with ⟨creates, passed, isAnswer⟩
        rcases (spares call rfl held).created creates passed with ⟨other, isOther, notNull⟩
        cases isAnswer.symm.trans isOther
        exact absurd isNull notNull
      · cases isExternal
        exact ⟨rfl, fun _ => rfl⟩
  | answered answers =>
    intro externalId isExternal
    exact ⟨(external_recordAnswers answers).trans (holds externalId isExternal).1, nofun⟩
  | hostResult applied =>
    intro externalId isExternal
    exact ⟨(external_applyHostResult reads applied).trans (holds externalId isExternal).1, nofun⟩
  | submitted approvalId writeId result returned => exact nofun
  | aside sameDraft =>
    intro externalId isExternal
    dsimp only
    rw [sameDraft]
    exact holds externalId isExternal

/-- The draft of a run holds the id that `create_draft` has last returned, beside the
fields that were sent then or edited since. -/
theorem external_draft_is_held {env : Environment} (reads : env.ReadsExternalId)
    {run : ReimbursementRun} {trace : List (Move DraftHistory (Option ToolCall))}
    {last : DraftHistory} (runs : Run (DraftStep env) ⟨run, none, run.draft, false⟩ trace last)
    (spares : ∀ move ∈ trace, SparesHeld env move) : last.Holds := by
  apply runs.keeps DraftHistory.Holds
  · intro move member step holds
    exact holds.step reads step (spares move member)
  · exact nofun

/-! ### A draft that is forgotten and one that is edited -/

def policyCall : ToolCall :=
  { requiredFields := []
    toolName := "reimbursement.get_policy"
    arguments := []
    approvalId := 1
    answer := .ok [] }

/-- The connector misses a field of the draft that the model has validated. -/
def incompleteCall : ToolCall :=
  { validateCall [("merchant", .str "cafe")] "high" with
    answer := .ok [("missing_fields", .arr [.str "category"])] }

def lunchHistory : DraftHistory :=
  ⟨newRun 1 "w" "u" [], none, (newRun 1 "w" "u" []).draft, false⟩

def draftedBy (calls : List ToolCall) : DraftHistory :=
  (validateCall lunchDraft "high" :: createCall :: calls).foldl
    (fun history call => history.called plainEnvironment call) lunchHistory

theorem plain_readsExternalId : plainEnvironment.ReadsExternalId := by
  intro fields draft isDraft
  cases isDraft
  rfl

theorem external_draft_is_held_policy :
    (draftedBy [policyCall]).external = some (.str "e1") ∧ (draftedBy [policyCall]).Holds := by
  refine ⟨by decide +kernel, ?_⟩
  refine external_draft_is_held plain_readsExternalId (.cons (.called (validateCall lunchDraft "high"))
    (.cons (.called createCall) (.cons (.called policyCall) (.nil _)))) ?_
  intro move member call same held
  simp only [List.mem_cons, List.not_mem_nil, or_false] at member
  rcases member with here | here | here
  · subst here
    exact absurd rfl held
  · subst here
    exact absurd (by decide +kernel) held
  · subst here
    cases same
    exact ⟨fun _ => nofun, fun validates => absurd validates (by decide),
      fun creates => absurd creates (by decide)⟩

/-- A call that asks for missing fields forgets the id, and an answer of the user changes
a field of the draft that was sent. -/
theorem external_draft_is_not_held :
    (¬ (draftedBy [incompleteCall]).HoldsSent ∧
      (draftedBy [incompleteCall]).run.draft.externalReimbursementId = .null) ∧
    ¬ ∀ (env : Environment) (run : ReimbursementRun)
        (trace : List (Move DraftHistory (Option ToolCall))) (last : DraftHistory),
      env.ReadsExternalId → Run (DraftStep env) ⟨run, none, run.draft, false⟩ trace last →
        last.HoldsSent := by
  constructor
  · refine ⟨?_, by decide +kernel⟩
    intro holds
    have held := (holds (.str "e1") (by decide +kernel)).1
    revert held
    decide +kernel
  · intro claimed
    have holds := claimed plainEnvironment (newRun 1 "w" "u" []) _ _ plain_readsExternalId
      (.cons (.called (validateCall lunchDraft "high")) (.cons (.called createCall)
        (.cons (.answered [("reason", .str "dinner")]) (.nil _))))
    have sent := congrArg ReimbursementDraft.reason (holds (.str "e1") (by decide +kernel)).2
    revert sent
    decide +kernel

end AnnaAgent.Reimbursement
