/-
What every operation on a crew project keeps.

Transitions, projections and assignments leave the graph of the tasks and the
rows they came from as they are, and only add to the audit.
-/

import AnnaAgent.Crew.Drafts
import AnnaAgent.Crew.Succession

namespace AnnaAgent.Crew

open Foundation
open Execution (JsonObject ExecutionSnapshot OutboxRow)

/-- A task in the graph, with the row it came from. -/
structure TaskNode where
  id : TaskId
  title : String
  dependsOn : List TaskId
  createdFromMessageId : Option String

def CrewTask.node (task : CrewTask) : TaskNode :=
  { id := task.id
    title := task.title
    dependsOn := task.dependsOn
    createdFromMessageId := task.createdFromMessageId }

namespace CrewProject

def nodes (project : CrewProject) : List TaskNode :=
  project.tasks.map CrewTask.node

/-- The graph stays, and the audit only grows. -/
structure Keeps (before after : CrewProject) : Prop where
  nodes : after.nodes = before.nodes
  audit : before.auditEvents <+: after.auditEvents

theorem Keeps.refl (project : CrewProject) : Keeps project project :=
  ⟨rfl, List.prefix_refl _⟩

theorem Keeps.trans {first middle last : CrewProject} (early : Keeps first middle)
    (late : Keeps middle last) : Keeps first last :=
  ⟨late.nodes.trans early.nodes, early.audit.trans late.audit⟩

variable {project after : CrewProject}

theorem nodes_of_forall₂ {tasks tasks' : List CrewTask}
    (related : List.Forall₂ (fun task task' => task'.node = task.node) tasks tasks') :
    tasks'.map CrewTask.node = tasks.map CrewTask.node := by
  induction related with
  | nil => rfl
  | cons same _ ih => rw [List.map_cons, List.map_cons, same, ih]

theorem setTask_keeps (taskId : TaskId) (assign : CrewTask → CrewTask)
    (same : ∀ task, (assign task).node = task.node) : Keeps project (project.setTask taskId assign) :=
  ⟨nodes_of_forall₂ (setTask_forall₂ (R := fun task task' => task'.node = task.node) (fun _ => rfl)
    (fun task _ => same task)), List.prefix_refl _⟩

theorem recompute_keeps : Keeps project project.recomputeReadiness := by
  refine ⟨nodes_of_forall₂ (recomputeReadiness_forall₂ ?_), List.prefix_refl _⟩
  intro task
  unfold ready
  split
  · rfl
  · rfl

variable {taskId : TaskId}

theorem assignTask_keeps {memberId : MemberId} {previous : Option MemberId}
    (succeeded : project.assignTask taskId memberId = .ok (previous, after)) :
    Keeps project after := by
  obtain ⟨_, _, _, _, _, rfl⟩ := assignTask_ok succeeded
  exact setTask_keeps taskId _ (fun _ => rfl)

theorem startTask_keeps (succeeded : project.startTask taskId = .ok after) :
    Keeps project after := by
  obtain ⟨_, _, _, _, rfl⟩ := startTask_ok succeeded
  exact setTask_keeps taskId _ (fun _ => rfl)

theorem submitTask_keeps {artifact now : String}
    (succeeded : project.submitTask taskId artifact now = .ok after) : Keeps project after := by
  obtain ⟨_, _, _, _, rfl⟩ := submitTask_ok succeeded
  exact (setTask_keeps taskId (submitArtifact artifact now _) (fun _ => rfl)).trans recompute_keeps

theorem setReviewed_keeps (gate : CrewTask) (assign : CrewTask → CrewTask)
    (same : ∀ task, (assign task).node = task.node) :
    Keeps project (project.setReviewed gate assign) := by
  unfold setReviewed
  cases gate.reviewsTaskId with
  | none => exact Keeps.refl project
  | some reviewedId => exact setTask_keeps reviewedId assign same

theorem reviewTask_keeps {gateTaskId : TaskId} {approved : Bool} {comment : Option String}
    (succeeded : project.reviewTask gateTaskId approved comment = .ok after) :
    Keeps project after := by
  obtain ⟨gate, _, rfl⟩ := reviewTask_ok succeeded
  cases approved with
  | true =>
    exact ((setReviewed_keeps gate (fun task => { task with status := .done })
      (fun _ => rfl)).trans (setTask_keeps gateTaskId (fun task =>
        { task with status := .done, reviewComment := comment }) (fun _ => rfl))).trans
      recompute_keeps
  | false =>
    exact (setTask_keeps gateTaskId (fun task =>
      { task with status := .blocked, reviewComment := comment }) (fun _ => rfl)).trans
      (setReviewed_keeps gate (fun task =>
        { task with status := .rework, blocker := comment }) (fun _ => rfl))

theorem step_keeps {call : LifecycleCall} (step : LifecycleStep project call after) :
    Keeps project after := by
  rcases step with succeeded | ⟨rfl, _⟩
  · cases call with
    | assignTask taskId memberId =>
      change (project.assignTask taskId memberId).map Prod.snd = .ok after at succeeded
      cases isAssigned : project.assignTask taskId memberId with
      | error error =>
        rw [isAssigned] at succeeded
        cases succeeded
      | ok outcome =>
        rw [isAssigned] at succeeded
        cases succeeded
        exact assignTask_keeps isAssigned
    | startTask taskId => exact startTask_keeps succeeded
    | submitTask taskId artifact now => exact submitTask_keeps succeeded
    | reviewTask gateTaskId approved comment => exact reviewTask_keeps succeeded
    | recomputeReadiness =>
      cases succeeded
      exact recompute_keeps
  · exact Keeps.refl _

section Projections

variable {host : ProjectionHost} {event : OutboxRow} {snapshot : ExecutionSnapshot}

theorem setRunRef_keeps (task : CrewTask) : Keeps project (project.setRunRef task event) :=
  setTask_keeps task.id _ (fun _ => rfl)

theorem markRunning_keeps (task : CrewTask) : Keeps project (project.markRunning host task event) :=
  (setRunRef_keeps task).trans (setTask_keeps task.id (fun task =>
    { task with runStartedAt := task.runStartedAt.or (some (host.iso event.createdAt)) })
    (fun _ => rfl))

theorem block_keeps (task : CrewTask) (reason : String) :
    Keeps project (project.block task event reason).2 :=
  setTask_keeps task.id (fun task =>
    { task with
      status := .blocked
      blocker := some reason
      runRef := some event.executionId
      runStartedAt := none }) (fun _ => rfl)

variable {task : CrewTask}

theorem startProjected_keeps (started : project.startProjected task = .ok after) :
    Keeps project after := by
  unfold startProjected at started
  split at started
  · cases isStarted : project.startTask task.id with
    | error error =>
      rw [isStarted] at started
      cases started
    | ok after' =>
      rw [isStarted] at started
      cases started
      exact startTask_keeps isStarted
  · split at started
    · cases started
    · cases started
      exact Keeps.refl _

theorem blockUnless_keeps (task : CrewTask) (reason : String) (stays : Prop) [Decidable stays] :
    Keeps project (if stays then (false, project) else project.block task event reason).2 := by
  split
  · exact Keeps.refl project
  · exact block_keeps task reason

theorem blockIfOpen_keeps (task : CrewTask) (reason : String) :
    Keeps project (project.blockIfOpen task event reason).2 := by
  unfold blockIfOpen
  split
  · exact Keeps.refl project
  · split
    · exact Keeps.refl project
    · exact blockUnless_keeps task reason _

variable {announces : Bool}

theorem projectArtifact_keeps
    (projected : project.projectArtifact host task event = .ok (announces, after)) :
    Keeps project after := by
  cases hasText : artifactText host event with
  | none =>
    unfold projectArtifact at projected
    rw [hasText] at projected
    cases projected
  | some artifact =>
    cases started : project.startProjected task with
    | error error =>
      unfold projectArtifact at projected
      rw [hasText] at projected
      dsimp only at projected
      rw [started] at projected
      cases projected
    | ok running =>
      rw [projectArtifact_of hasText started] at projected
      cases submits : (running.setRunRef task event).submitTask task.id artifact host.now with
      | error error =>
        rw [submits] at projected
        cases projected
      | ok submitted =>
        rw [submits] at projected
        cases projected
        exact (((startProjected_keeps started).trans (setRunRef_keeps task)).trans
          (submitTask_keeps submits)).trans (setTask_keeps task.id (fun task =>
            { task with runStartedAt := none }) (fun _ => rfl))

theorem marks_keeps (announces : CrewProject → Bool) {announced : Bool}
    (projected : (if task.status ∈ advanced then .ok (false, project) else do let running ← project.startProjected task return (announces (running.markRunning host task event), running.markRunning host task event) : Except ProjectionError (Bool × CrewProject)) = .ok (announced, after)) :
    Keeps project after := by
  split at projected
  · cases projected
    exact Keeps.refl _
  · cases started : project.startProjected task with
    | error error =>
      rw [started] at projected
      cases projected
    | ok running =>
      rw [started] at projected
      cases projected
      exact (startProjected_keeps started).trans (markRunning_keeps task)

theorem keeps_of_outcome {outcome : Bool × CrewProject}
    (projected : (.ok outcome : Except ProjectionError (Bool × CrewProject)) = .ok (announces, after))
    (kept : Keeps project outcome.2) : Keeps project after := by
  cases projected
  exact kept

theorem retryScheduled_keeps (task : CrewTask) :
    Keeps project (project.projectRetryScheduled task event).2 := by
  unfold projectRetryScheduled
  split
  · exact Keeps.refl project
  · exact setRunRef_keeps task

theorem projectTask_keeps {kind : EventKind}
    (projected : project.projectTask host kind task event snapshot = .ok (announces, after)) :
    Keeps project after := by
  cases kind with
  | started => exact keeps_of_outcome projected (setRunRef_keeps task)
  | claimed => exact marks_keeps (fun after => after.changedFrom task) projected
  | artifact => exact projectArtifact_keeps projected
  | blocked | recoveryBlocked =>
    exact keeps_of_outcome projected (blockUnless_keeps task _ (task.status ∈ advanced))
  | question => exact marks_keeps (fun _ => true) projected
  | retryScheduled => exact keeps_of_outcome projected (retryScheduled_keeps task)
  | failed | deadLettered | cancelled =>
    exact keeps_of_outcome projected (blockIfOpen_keeps task _)

theorem mutate_keeps {effects : ProjectionEffects}
    (mutated : mutateProjectForExecutionEvent host project event snapshot taskId = .ok (after, effects)) :
    Keeps project after := by
  cases found : project.findTask taskId with
  | none =>
    rw [mutate_absent found] at mutated
    cases mutated
  | some task =>
    cases isKind : eventKind event.type with
    | none =>
      unfold mutateProjectForExecutionEvent at mutated
      rw [found] at mutated
      dsimp only at mutated
      rw [isKind] at mutated
      cases mutated
      exact Keeps.refl _
    | some kind =>
      cases projected : project.projectTask host kind task event snapshot with
      | error error =>
        rw [mutate_raised found isKind projected] at mutated
        cases mutated
      | ok outcome =>
        obtain ⟨announces, middle⟩ := outcome
        have kept := projectTask_keeps projected
        cases announces with
        | false =>
          rw [mutate_quiet found isKind projected] at mutated
          cases mutated
          exact kept
        | true =>
          by_cases refused : kind ≠ .started ∧ Anonymous host event snapshot
          · obtain ⟨error, raised⟩ :=
              mutate_unannounced found isKind projected refused.1 refused.2
            rw [raised] at mutated
            cases mutated
          · obtain ⟨audited, effects', mutated', sameTasks, grows, _⟩ :=
              mutate_announced found isKind projected refused
            rw [mutated'] at mutated
            cases mutated
            exact kept.trans ⟨congrArg (List.map CrewTask.node) sameTasks, grows⟩

end Projections

section Assignments

variable {host : ConfirmHost}

theorem appendEvent_keeps (now type : String) (payload : JsonObject) :
    Keeps project (project.appendEvent now type payload).1 :=
  ⟨rfl, List.prefix_append _ _⟩

theorem assign_keeps {taskId : TaskId} {memberId : MemberId} {rows : List CrewRow}
    (succeeded : project.assign host taskId memberId = .ok (after, rows)) : Keeps project after := by
  unfold assign at succeeded
  obtain ⟨⟨previous, assigned⟩, isAssigned, succeeded⟩ := bind_ok succeeded
  have kept := assignTask_keeps isAssigned
  dsimp only at succeeded
  split at succeeded
  · cases succeeded
    exact Keeps.refl _
  · cases previous with
    | none | some previous =>
      cases succeeded
      exact kept.trans (appendEvent_keeps _ _ _)

theorem assignPlanned_keeps (assigning : Assigning) (planned : TaskId × MemberId) :
    Keeps assigning.project (assignPlanned host assigning planned).project := by
  unfold assignPlanned
  split
  · rename_i assigned
    exact assign_keeps assigned
  · exact Keeps.refl _

theorem assignAll_keeps (assigning : Assigning) (planned : List (TaskId × MemberId)) :
    Keeps assigning.project (planned.foldl (assignPlanned host) assigning).project := by
  induction planned generalizing assigning with
  | nil => exact Keeps.refl _
  | cons first rest ih => exact (assignPlanned_keeps assigning first).trans (ih _)

theorem adoptSuggestion_keeps (drafts : List TaskDraft) (created : List CrewTask)
    (suggestedAssignee : Option MemberId) :
    Keeps project (project.adoptSuggestion host drafts created suggestedAssignee).1 := by
  unfold adoptSuggestion
  split
  · split
    · exact Keeps.refl project
    · split
      · rename_i outcome assigned
        exact @assign_keeps project outcome.1 host _ _ outcome.2 assigned
      · exact Keeps.refl project
  · exact Keeps.refl project

end Assignments

end CrewProject

end AnnaAgent.Crew
