/-
Decisions and the approvals they are about.

`_runs_by_approval_id` keeps the ids of all approvals of a run, while the run has
only its last approval.  A decision is about the approval it names when the run
that its id leads to still has that approval.
-/

import AnnaAgent.Reimbursement.BoundCopies

namespace AnnaAgent.Reimbursement

open Foundation

variable {env : Environment} {facts : List Fact} {orchestrator : Orchestrator}

theorem Bound.silent {action : Action} (silent : orchestrator.factsOf env action = [])
    (bound : Bound facts (orchestrator.act env action)) :
    Bound (facts ++ orchestrator.factsOf env action) (orchestrator.act env action) := by
  rw [silent, List.append_nil]
  exact bound

theorem Bound.perform (bound : Bound facts orchestrator) (action : Action) :
    Bound (facts ++ orchestrator.factsOf env action) (orchestrator.act env action) := by
  cases action with
  | begin workspaceId actorUserId attachments =>
    apply Bound.silent rfl
    exact bound.begin workspaceId actorUserId attachments
  | tool ref requiredFields toolName arguments answer =>
    exact bound.tool ref requiredFields toolName arguments answer
  | message ref text | noted ref kind payload | failed ref errorCode message =>
    apply Bound.silent rfl
    exact bound.touch (fun run _ => ⟨rfl, rfl⟩)
  | saved ref =>
    apply Bound.silent rfl
    exact bound.save ref
  | answers ref answers =>
    apply Bound.silent rfl
    apply bound.touch
    intro run _
    have untouched := @Untouched.recordAnswers env run answers
    exact ⟨untouched.id, untouched.approval⟩
  | hostResult ref result hostStatus =>
    apply Bound.silent rfl
    unfold Orchestrator.act
    dsimp only
    split
    · exact bound
    · rename_i run held
      split
      · exact bound
      · rename_i applied isApplied
        apply Bound.save
        apply bound.touch
        intro other isOther
        have same : run = other := Option.some.inj (held.symm.trans isOther)
        have untouched := Untouched.applyHostResult isApplied
        rw [← same]
        exact ⟨untouched.id, untouched.approval⟩
  | approve approvalId approvedBy submitAnswer verifyAnswer =>
    have approved := @Bound.approve env facts orchestrator bound approvalId approvedBy
      submitAnswer verifyAnswer
    apply approved.later
    · intro approval member
      rcases List.mem_map.mp member with ⟨_, _, same⟩
      cases same
    · intro calledWith approval member
      rcases List.mem_map.mp member with ⟨_, _, same⟩
      cases same
  | reject approvalId rejectedBy => exact bound.reject approvalId rejectedBy
  | verify runId answer =>
    apply Bound.silent rfl
    exact bound.verify runId answer
  | read runId =>
    apply Bound.silent rfl
    unfold Orchestrator.act
    dsimp only
    split
    · exact bound
    · rename_i found isFound
      exact bound.getRun isFound
  | restart =>
    apply Bound.silent rfl
    exact bound.restart

theorem BoundFacts.concat (boundFacts : BoundFacts env facts) {new : List Fact}
    (single : new.length ≤ 1) (isBound : ∀ fact ∈ new, fact.isBound env facts) :
    BoundFacts env (facts ++ new) := by
  intro earlier fact later parts
  cases new with
  | nil =>
    rw [List.append_nil] at parts
    exact boundFacts earlier fact later parts
  | cons last rest =>
    have noRest : rest = [] := by
      apply List.eq_nil_of_length_eq_zero
      rw [List.length_cons] at single
      omega
    subst noRest
    rcases List.eq_nil_or_concat later with none | ⟨before, final, isLater⟩
    · rw [none] at parts
      rcases List.append_inj' parts rfl with ⟨sameEarlier, sameFact⟩
      cases sameFact
      rw [← sameEarlier]
      exact isBound fact List.mem_cons_self
    · rw [isLater, List.concat_eq_append, ← List.cons_append, ← List.append_assoc] at parts
      exact boundFacts earlier fact before (List.append_inj' parts rfl).1

theorem matches_spec {approval : ApprovalRequest} {draft : ReimbursementDraft} {snapshot : Fields}
    (taken : approval.draftSnapshot = some snapshot)
    (matching : approvalPayloadMatchesCurrentDraft env approval draft = true) :
    env.same (.obj snapshot) (.obj draft.asMcpPayload) = true ∧
      payloadMatches env approval draft = true := by
  unfold approvalPayloadMatchesCurrentDraft at matching
  dsimp only at matching
  split at matching
  · cases matching
  · split at matching
    · cases matching
    · split at matching
      · cases matching
      · split at matching
        · cases matching
        · rw [taken] at matching
          exact Bool.and_eq_true_iff.mp matching

def Snapshots (facts : List Fact) : Prop :=
  ∀ approval, Fact.requested approval ∈ facts → approval.draftSnapshot.isSome = true

theorem Snapshots.perform (snapshots : Snapshots facts) (action : Action) :
    Snapshots (facts ++ orchestrator.factsOf env action) := by
  intro approval member
  rcases List.mem_append.mp member with early | late
  · exact snapshots approval early
  · cases action with
    | tool ref requiredFields toolName arguments answer =>
      rcases List.mem_map.mp late with ⟨created, isCreated, same⟩
      cases same
      have requested := Option.mem_toList.mp isCreated
      unfold Orchestrator.requestOf at requested
      split at requested
      · rcases Option.bind_eq_some_iff.mp requested with ⟨run, _, made⟩
        rw [approval_of_requested made]
        rfl
      · cases requested
    | approve approvalId approvedBy submitAnswer verifyAnswer
    | reject approvalId rejectedBy =>
      rcases List.mem_map.mp late with ⟨_, _, same⟩
      cases same
    | _ => cases late

variable {approvalId : ApprovalId}

theorem Bound.runOfApproval (bound : Bound facts orchestrator) {run : ReimbursementRun}
    (isRun : orchestrator.runOfApproval env approvalId = some run) :
    CopyBound facts run := by
  rcases Option.bind_eq_some_iff.mp isRun with ⟨found, isFound, held⟩
  exact (bound.getRunByApprovalId isFound).objects found.2 run held

theorem length_toList_map {α : Type} (value : Option α) (f : α → Fact) :
    (value.toList.map f).length ≤ 1 := by
  cases value with
  | none => exact Nat.zero_le 1
  | some item => exact Nat.le_refl 1

/-- What holds of a system whose decisions have all named the current approval. -/
structure Decided (env : Environment) (system : System) : Prop where
  bound : Bound system.facts system.orchestrator
  boundFacts : BoundFacts env system.facts
  snapshots : Snapshots system.facts

theorem Decided.approved {system : System} (decided : Decided env system) {submission : Submission}
    (submits : system.orchestrator.submissionOf env approvalId = some submission)
    (named : ∀ run approval, system.orchestrator.runOfApproval env approvalId = some run → run.approval = some approval → approval.id = approvalId)
    (sound : ∀ calledWith approval, Fact.rejected calledWith approval ∈ system.facts → approval.id = calledWith) :
    submission.isApproved env approvalId system.facts := by
  rcases Option.bind_eq_some_iff.mp submits with ⟨run, isRun, mapped⟩
  rcases Option.map_eq_some_iff.mp mapped with ⟨approval, goesOn, same⟩
  rcases submittable_spec goesOn with ⟨held, _, notRejected, matching⟩
  have sameId := named run approval isRun held
  rcases decided.bound.runOfApproval isRun approval held with ⟨requested, sameRun, believed⟩
  have isTaken := decided.snapshots _ requested
  rcases Option.isSome_iff_exists.mp isTaken with ⟨snapshot, taken⟩
  have checked := @matches_spec env approval _ _ taken matching
  subst same
  exact
    { named := ⟨sameId, sameId⟩
      requested := ⟨_, requested, rfl, sameRun⟩
      notRejected := fun otherId rejected member => by
        have different := believed notRejected otherId rejected member
        have sameOther := sound otherId rejected member
        rw [← sameOther, ← sameId]
        exact ⟨different, different⟩
      snapshot := ⟨snapshot, taken, checked.1⟩
      payload := checked.2 }

theorem Decided.perform {system : System} (decided : Decided env system) (action : Action)
    (named : NamesCurrent env ⟨system, action, system.perform env action⟩) :
    Decided env (system.perform env action) := by
  have sound : ∀ calledWith approval, Fact.rejected calledWith approval ∈ system.facts →
      approval.id = calledWith := by
    intro calledWith approval member
    rcases List.append_of_mem member with ⟨earlier, later, parts⟩
    exact decided.boundFacts earlier _ later parts
  refine ⟨decided.bound.perform action, ?_, decided.snapshots.perform action⟩
  apply decided.boundFacts.concat
  · cases action with
    | tool ref requiredFields toolName arguments answer
    | approve approvalId approvedBy submitAnswer verifyAnswer
    | reject approvalId rejectedBy => exact length_toList_map _ _
    | _ => exact Nat.zero_le 1
  · intro fact member
    cases action with
    | tool ref requiredFields toolName arguments answer =>
      rcases List.mem_map.mp member with ⟨_, _, same⟩
      rw [← same]
      trivial
    | approve approvalId approvedBy submitAnswer verifyAnswer =>
      rcases List.mem_map.mp member with ⟨submission, isSubmission, same⟩
      rw [← same]
      exact decided.approved (Option.mem_toList.mp isSubmission)
        (fun run approval => named approvalId run approval rfl) sound
    | reject approvalId rejectedBy =>
      rcases List.mem_map.mp member with ⟨approval, isRejection, same⟩
      rw [← same]
      rcases Option.bind_eq_some_iff.mp (Option.mem_toList.mp isRejection) with
        ⟨run, isRun, goesOn⟩
      exact named approvalId run approval rfl isRun (rejectable_spec goesOn).1
    | _ => cases member

theorem decided_empty : Decided env emptySystem := by
  refine ⟨?_, ?_, ?_⟩
  · exact
      { unique := fun _ _ held => by cases held
        storedKey := fun _ _ stored => by cases stored
        loadedFirst := fun _ _ _ _ stored => by cases stored
        objectIds := fun _ _ held => by cases held
        storedIds := fun _ _ stored => by cases stored
        objects := fun _ _ held => by cases held
        rows := fun _ _ stored => by cases stored
        fresh := fun _ member => by cases member
        distinct := fun _ _ member => by cases member
        rejectedIds := fun _ _ member => by cases member }
  · intro earlier fact later parts
    cases earlier with
    | nil => cases parts
    | cons head tail => cases parts
  · intro approval member
    cases member

theorem submit_not_allowed (run : ReimbursementRun) (requiredFields : List String)
    (arguments : Fields) (approvalId : ApprovalId) (answer : Answer) :
    (dispatchTool env run requiredFields "reimbursement.submit" arguments approvalId answer).2 =
      .failed "tool_not_allowed"
        "tool is not available in reimbursement runtime: reimbursement.submit" := by
  have passes : modelToolPreflightError env run requiredFields "reimbursement.submit" arguments =
      (run, arguments, .passed) := if_pos (by simp)
  unfold dispatchTool
  rw [if_neg (by simp), passes]
  dsimp only
  unfold callTool
  rw [if_pos (by simp [allowedTools])]
  rfl

theorem performed_after {before after : System} {action : Action}
    (performed : Performed env before action after) : after = before.perform env action := by
  cases performed with
  | perform => rfl

/-- When every decision names the current approval of the run that it leads to, only
approved reimbursements are submitted, and no decision is about another approval than
the one that it names.  No tool call of the model reaches `adapter.submit`. -/
theorem decisions_are_bound {trace : List (Move System Action)} {last : System}
    (runs : Run (Performed env) emptySystem trace last)
    (named : ∀ move ∈ trace, NamesCurrent env move) :
    BoundFacts env last.facts ∧
      ∀ run requiredFields arguments approvalId answer,
        (dispatchTool env run requiredFields "reimbursement.submit" arguments approvalId
          answer).2 = .failed "tool_not_allowed"
            "tool is not available in reimbursement runtime: reimbursement.submit" := by
  have decided : Decided env last := by
    apply runs.keeps (Decided env)
    · intro move member step held
      have namedHere := named move member
      have after := performed_after step
      rcases move with ⟨before, action, last⟩
      dsimp only at after
      subst after
      exact held.perform action namedHere
    · exact decided_empty
  exact ⟨decided.boundFacts, submit_not_allowed⟩

def toolAction (toolName : String) (arguments : Fields) (result : Fields) : Action :=
  .tool 0 [] toolName arguments (.ok result)

def meal : Fields :=
  [("amount", .num (JsonNumber.ofNat 7)), ("currency", .str "CNY"), ("reason", .str "lunch")]

/-- A run whose draft is ready for an approval. -/
def drafted : List Action :=
  [.begin "w" "u" [],
    toolAction "reimbursement.validate_draft" [("draft", .obj meal)]
      [("valid", .bool true), ("policy_summary", .str "meals"), ("risk_level", .str "low")],
    toolAction "reimbursement.create_draft" [("draft", .obj meal)]
      [("external_reimbursement_id", .str "e1"), ("external_status", .str "draft")]]

def askApproval : Action :=
  toolAction "reimbursement.submit_intent" (("external_reimbursement_id", .str "e1") :: meal) []

def approveFirst : Action :=
  .approve 1 "u" (.ok [("external_reimbursement_id", .str "e1"), ("external_status", .str "sent")])
    (.ok [("external_reimbursement_id", .str "e1"), ("external_status", .str "sent")])

def afterActions (actions : List Action) : System :=
  actions.foldl (fun system action => system.perform plainEnvironment action) emptySystem

theorem runs_actions (actions : List Action) (system : System) :
    ∃ trace, Run (Performed plainEnvironment) system trace
      (actions.foldl (fun system action => system.perform plainEnvironment action) system) := by
  induction actions generalizing system with
  | nil => exact ⟨[], .nil system⟩
  | cons action rest ih =>
    rcases ih (system.perform plainEnvironment action) with ⟨trace, later⟩
    exact ⟨_, .cons (.perform system action) later⟩

def System.decidedApproval (system : System) (approvalId : ApprovalId) : Option ApprovalId :=
  (system.orchestrator.runOfApproval plainEnvironment approvalId).bind (fun run =>
    run.approval.map ApprovalRequest.id)

theorem decisions_are_bound_lunch :
    (afterActions (drafted ++ [askApproval, approveFirst])).facts.length = 2 ∧
      BoundFacts plainEnvironment
        (afterActions (drafted ++ [askApproval, approveFirst])).facts := by
  refine ⟨by decide +kernel, ?_⟩
  refine (decisions_are_bound (.cons (.perform _ _) (.cons (.perform _ _) (.cons (.perform _ _)
    (.cons (.perform _ askApproval) (.cons (.perform _ approveFirst) (.nil _)))))) ?_).1
  intro move member approvalId run approval decided isRun held
  simp only [List.mem_cons, List.not_mem_nil, or_false] at member
  rcases member with here | here | here | here | here
  · subst here
    cases decided
  · subst here
    cases decided
  · subst here
    cases decided
  · subst here
    cases decided
  · subst here
    cases decided
    have isFirst : (afterActions (drafted ++ [askApproval])).decidedApproval 1 = some 1 := by
      decide +kernel
    unfold System.decidedApproval at isFirst
    change (afterActions (drafted ++ [askApproval])).orchestrator.runOfApproval plainEnvironment 1 =
      some run at isRun
    rw [isRun, Option.bind_some, held] at isFirst
    exact Option.some.inj isFirst

def Fact.isNamed : Fact → Bool
  | .requested _ => true
  | .rejected calledWith approval => decide (approval.id = calledWith)
  | .submitted calledWith submission => decide (submission.approval.id = calledWith)

theorem named_of_bound (boundFacts : BoundFacts env facts) :
    facts.all Fact.isNamed = true := by
  rw [List.all_eq_true]
  intro fact member
  rcases List.append_of_mem member with ⟨earlier, later, parts⟩
  have isBound := boundFacts earlier fact later parts
  cases fact with
  | requested approval => rfl
  | rejected calledWith approval => exact decide_eq_true isBound
  | submitted calledWith submission => exact decide_eq_true isBound.named.2

/-- After the first approval has been rejected, its id approves the second one. -/
theorem rejected_id_approves :
    ¬ ∀ (env : Environment) (trace : List (Move System Action)) (last : System),
      Run (Performed env) emptySystem trace last → BoundFacts env last.facts := by
  intro claimed
  rcases runs_actions (drafted ++ [askApproval, .reject 1 "u", askApproval, approveFirst])
    emptySystem with ⟨trace, runs⟩
  have isNamed := named_of_bound (claimed plainEnvironment trace _ runs)
  have isWrong : (afterActions (drafted ++ [askApproval, .reject 1 "u", askApproval,
      approveFirst])).facts.all Fact.isNamed = false := by decide +kernel
  exact absurd (isNamed.symm.trans isWrong) (by simp)

end AnnaAgent.Reimbursement



