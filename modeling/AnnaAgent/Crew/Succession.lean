/-
Events of an execution that another one has succeeded.

The projection does not compare an event's execution with the run that the task
refers to.  An event of an earlier execution that comes after one of a later
execution leaves the task alone exactly when the status of the task, or a
refusal, stops it.
-/

import AnnaAgent.Crew.Completion
import AnnaAgent.Crew.ExecutionProjection

namespace AnnaAgent.Crew

open Foundation
open Execution (ExecutionId ExecutionSnapshot OutboxRow)

structure CrewStore where
  project : CrewProject
  receipts : List (ExecutionId × Nat)

/-- `apply_execution_projection`; an error rolls back. -/
def CrewStore.applyExecutionProjection (host : ProjectionHost) (store : CrewStore)
    (event : OutboxRow) (snapshot : ExecutionSnapshot) (taskId : TaskId) :
    Except ProjectionError (Bool × CrewStore) :=
  if (event.executionId, event.seq) ∈ store.receipts then .ok (false, store)
  else do
    let (project, effects) ←
      mutateProjectForExecutionEvent host store.project event snapshot taskId
    return (effects.changed,
      { project := if effects.changed then project else store.project
        receipts := store.receipts ++ [(event.executionId, event.seq)] })

/-- An event is projected, or the project is written by someone else. -/
inductive CrewMove where
  | project (event : OutboxRow) (snapshot : ExecutionSnapshot)
  | write

inductive CrewStep (host : ProjectionHost) (taskId : TaskId) :
    CrewStore → CrewMove → CrewStore → Prop
  | projected {store after : CrewStore} {event : OutboxRow} {snapshot : ExecutionSnapshot}
      {changed : Bool}
      (succeeded : store.applyExecutionProjection host event snapshot taskId =
        .ok (changed, after)) :
      CrewStep host taskId store (.project event snapshot) after
  | failed {store : CrewStore} {event : OutboxRow} {snapshot : ExecutionSnapshot}
      {error : ProjectionError}
      (raised : store.applyExecutionProjection host event snapshot taskId = .error error) :
      CrewStep host taskId store (.project event snapshot) store
  | written (store : CrewStore) (project : CrewProject) :
      CrewStep host taskId store .write { store with project }

structure Footprint where
  status : TaskStatus
  blocker : Option String
  artifact : Option String
  artifactVersions : List ArtifactVersion
  runRef : Option String
  deriving DecidableEq

def footprint (task : CrewTask) : Footprint :=
  { status := task.status
    blocker := task.blocker
    artifact := task.artifact
    artifactVersions := task.artifactVersions
    runRef := task.runRef }

/-- The task keeps its status, blocker, artifact and run. -/
def Undisturbed (taskId : TaskId) (before after : CrewProject) : Prop :=
  (after.findTask taskId).map footprint = (before.findTask taskId).map footprint

/-- The task can be running for an event: it runs, or it can be started. -/
def Runnable (project : CrewProject) (task : CrewTask) : Prop :=
  task.status = .running ∨ task.isGate = false ∧
    (task.status = .rework ∨ task.status = .assigned ∧ project.depsSatisfied task = true)

/-- The rows of the worker would lack their provenance. -/
def Anonymous (host : ProjectionHost) (event : OutboxRow) (snapshot : ExecutionSnapshot) : Prop :=
  host.strip snapshot.workerProfileRef = "" ∨ host.strip event.executionId = ""

def blockReason (host : ProjectionHost) (kind : EventKind) (event : OutboxRow) : String :=
  if kind = .blocked then
    orText' host (orElse (payloadGet event.payload "reason") (payloadGet event.payload "message"))
      "Agent execution blocked"
  else orText' host (payloadGet event.payload "reason") "manual recovery required"

/-- The task is in no state from which an event of a kind would change it. -/
def Rests (host : ProjectionHost) (project : CrewProject) (task : CrewTask) (event : OutboxRow) :
    EventKind → Prop
  | .started => task.runRef = some event.executionId
  | .claimed | .question => task.status ∈ advanced ∨ ¬ Runnable project task ∨
      task.status = .running ∧ task.runRef = some event.executionId
  | .artifact => CrewProject.artifactText host event = none ∨ ¬ Runnable project task ∨
      task.isGate = true
  | .retryScheduled => task.status ∈ advanced ∨ task.runRef = some event.executionId
  | .failed | .deadLettered | .cancelled =>
    task.status ∉ [TaskStatus.assigned, .running, .rework]
  | kind => task.status ∈ advanced ∨ task.status = .blocked ∧
      task.blocker = some (blockReason host kind event) ∧ task.runRef = some event.executionId

/-- The change is not made, or it is rolled back with its announcement. -/
def Stops (host : ProjectionHost) (project : CrewProject) (task : CrewTask) (event : OutboxRow)
    (snapshot : ExecutionSnapshot) (kind : EventKind) : Prop :=
  Rests host project task event kind ∨ kind ≠ .started ∧ Anonymous host event snapshot

/-- The event finds a receipt, no task, a type that is not projected, or what
stops it. -/
def Spares (host : ProjectionHost) (store : CrewStore) (event : OutboxRow)
    (snapshot : ExecutionSnapshot) (taskId : TaskId) : Prop :=
  (event.executionId, event.seq) ∈ store.receipts ∨
    ∀ task kind, store.project.findTask taskId = some task → eventKind event.type = some kind →
      Stops host store.project task event snapshot kind

namespace CrewProject

variable {project : CrewProject}

theorem findTask_setTask {taskId : TaskId} {task : CrewTask} (assign : CrewTask → CrewTask)
    (sameId : ∀ task, (assign task).id = task.id) (found : project.findTask taskId = some task) :
    (project.setTask taskId assign).findTask taskId = some (assign task) := by
  have updated : (project.setTask taskId assign).findTask taskId =
      (project.findTask taskId).map assign :=
    find?_updateFirst (fun task => by rw [sameId]) project.tasks
  rw [updated, found]
  rfl

theorem findTask_recompute {taskId : TaskId} {task : CrewTask}
    (found : project.findTask taskId = some task) :
    project.recomputeReadiness.findTask taskId = some (project.ready task) := by
  have readied : project.recomputeReadiness.findTask taskId =
      (project.findTask taskId).map project.ready := by
    unfold findTask
    rw [recomputeReadiness_tasks, List.find?_map]
    congr 2
    funext task
    rw [Function.comp_apply, ready_id]
  rw [readied, found]
  rfl

variable {host : ProjectionHost} {event : OutboxRow} {snapshot : ExecutionSnapshot}
  {taskId : TaskId} {task : CrewTask} {after : CrewProject}

theorem findTask_setRunRef (event : OutboxRow) (found : project.findTask taskId = some task) :
    (project.setRunRef task event).findTask taskId =
      some { task with runRef := some event.executionId } := by
  obtain rfl := findTask_id found
  exact findTask_setTask _ (fun _ => rfl) found

theorem findTask_markRunning (host : ProjectionHost) (event : OutboxRow)
    (found : project.findTask taskId = some task) :
    (project.markRunning host task event).findTask taskId =
      some { task with
        runRef := some event.executionId
        runStartedAt := task.runStartedAt.or (some (host.iso event.createdAt)) } := by
  obtain rfl := findTask_id found
  exact findTask_setTask (fun task =>
    { task with runStartedAt := task.runStartedAt.or (some (host.iso event.createdAt)) })
    (fun _ => rfl) (findTask_setRunRef event found)

theorem startProjected_ok (found : project.findTask taskId = some task)
    (started : project.startProjected task = .ok after) :
    Runnable project task ∧ after.findTask taskId = some { task with status := .running } := by
  obtain rfl := findTask_id found
  unfold startProjected at started
  by_cases startable : task.status ∈ [TaskStatus.assigned, .rework]
  · rw [if_pos startable] at started
    cases isStarted : project.startTask task.id with
    | error error =>
      rw [isStarted] at started
      cases started
    | ok after' =>
      rw [isStarted] at started
      cases started
      obtain ⟨found', isFound, notGate, isReady, rfl⟩ := startTask_ok isStarted
      rw [found] at isFound
      cases isFound
      exact ⟨Or.inr ⟨notGate, isReady⟩, findTask_setTask _ (fun _ => rfl) found⟩
  · rw [if_neg startable] at started
    by_cases isRunning : task.status = .running
    · rw [if_neg (not_not.2 isRunning)] at started
      cases started
      refine ⟨Or.inl isRunning, ?_⟩
      rw [found, ← isRunning]
    · rw [if_pos isRunning] at started
      cases started

theorem startProjected_of (found : project.findTask taskId = some task)
    (runnable : Runnable project task) : ∃ after, project.startProjected task = .ok after := by
  obtain rfl := findTask_id found
  unfold startProjected
  rcases runnable with isRunning | ⟨notGate, isReady⟩
  · rw [isRunning, if_neg (by decide), if_neg (not_not.2 rfl)]
    exact ⟨project, rfl⟩
  · have startable : task.status ∈ [TaskStatus.assigned, .rework] := by
      rcases isReady with isRework | ⟨isAssigned, _⟩
      · rw [isRework]
        decide
      · rw [isAssigned]
        decide
    rw [if_pos startable]
    unfold startTask
    rw [bind_of_ok _ (getTask_of_find found), notGate, if_neg Bool.false_ne_true]
    rcases isReady with isRework | ⟨isAssigned, satisfied⟩
    · rw [if_pos isRework]
      exact ⟨_, rfl⟩
    · rw [isAssigned, if_neg (by decide), if_neg (not_not.2 rfl), satisfied,
        if_neg Bool.noConfusion]
      exact ⟨_, rfl⟩

variable {task' : CrewTask}

theorem undisturbed_iff (found : project.findTask taskId = some task)
    (found' : after.findTask taskId = some task') :
    Undisturbed taskId project after ↔ footprint task' = footprint task := by
  unfold Undisturbed
  rw [found, found', Option.map_some, Option.map_some]
  exact Option.some_inj

theorem changedFrom_of (found' : after.findTask task.id = some task')
    (sameArtifact : task'.artifactVersions = task.artifactVersions)
    (differs : footprint task' ≠ footprint task) : after.changedFrom task = true := by
  unfold changedFrom
  rw [found', Option.map_some, decide_eq_true_eq]
  intro same
  have sameState := Option.some.inj same
  refine differs ?_
  unfold footprint
  rw [show task'.status = task.status from congrArg TaskState.status sameState,
    show task'.blocker = task.blocker from congrArg TaskState.blocker sameState,
    show task'.artifact = task.artifact from congrArg TaskState.artifact sameState,
    show task'.runRef = task.runRef from congrArg TaskState.runRef sameState, sameArtifact]

theorem changedFrom_of_versions (found' : after.findTask task.id = some task')
    (longer : task'.artifactVersions.length ≠ task.artifactVersions.length) :
    after.changedFrom task = true := by
  unfold changedFrom
  rw [found', Option.map_some, decide_eq_true_eq]
  intro same
  exact longer (congrArg TaskState.versions (Option.some.inj same))

theorem startProjected_error (found : project.findTask taskId = some task)
    (unable : ¬ Runnable project task) : ∃ error, project.startProjected task = .error error := by
  cases started : project.startProjected task with
  | error error => exact ⟨error, rfl⟩
  | ok after => exact absurd (startProjected_ok found started).1 unable

variable {running : CrewProject}

theorem findTask_marked (host : ProjectionHost) (event : OutboxRow)
    (found : project.findTask taskId = some task)
    (started : project.startProjected task = .ok running) :
    (running.markRunning host task event).findTask taskId =
      some { task with
        status := .running
        runRef := some event.executionId
        runStartedAt := task.runStartedAt.or (some (host.iso event.createdAt)) } := by
  have isRunning := (startProjected_ok found started).2
  have marked := findTask_markRunning host event isRunning
  unfold markRunning setRunRef at marked ⊢
  exact marked

theorem marked_undisturbed_iff (found : project.findTask taskId = some task)
    (started : project.startProjected task = .ok running) :
    Undisturbed taskId project (running.markRunning host task event) ↔
      task.status = .running ∧ task.runRef = some event.executionId := by
  rw [undisturbed_iff found (findTask_marked host event found started)]
  unfold footprint
  rw [Footprint.mk.injEq]
  constructor
  · intro same
    exact ⟨same.1.symm, same.2.2.2.2.symm⟩
  · intro same
    exact ⟨same.1.symm, rfl, rfl, rfl, same.2.symm⟩

/-- What is announced of a project that an event changed. -/
def Disturbs (taskId : TaskId) (project : CrewProject)
    (outcome : Except ProjectionError (Bool × CrewProject)) : Prop :=
  ∃ after, outcome = .ok (true, after) ∧ ¬ Undisturbed taskId project after

theorem not_disturbs_same : ¬ Disturbs taskId project (.ok (false, project)) := by
  rintro ⟨after, same, _⟩
  cases same

theorem not_disturbs_error (error : ProjectionError) :
    ¬ Disturbs taskId project (.error error) := by
  rintro ⟨after, same, _⟩
  cases same

theorem disturbs_iff (announces : Bool) (changed : ¬ Undisturbed taskId project after →
    announces = true) :
    Disturbs taskId project (.ok (announces, after)) ↔ ¬ Undisturbed taskId project after := by
  constructor
  · rintro ⟨after', same, disturbed⟩
    cases same
    exact disturbed
  · intro disturbed
    rw [changed disturbed]
    exact ⟨after, rfl, disturbed⟩

theorem projectStarted_disturbs_iff (found : project.findTask taskId = some task) :
    Disturbs taskId project (.ok (project.projectStarted task event)) ↔
      task.runRef ≠ some event.executionId := by
  have changes := findTask_setRunRef event found
  unfold projectStarted
  rw [disturbs_iff]
  · rw [undisturbed_iff found changes]
    unfold footprint
    rw [Footprint.mk.injEq]
    refine not_congr ⟨fun same => same.2.2.2.2.symm, fun same => ⟨rfl, rfl, rfl, rfl, same.symm⟩⟩
  · intro disturbed
    rw [undisturbed_iff found changes] at disturbed
    obtain rfl := findTask_id found
    exact changedFrom_of changes rfl disturbed

theorem marks_disturbs_iff (announces : CrewProject → Bool)
    (found : project.findTask taskId = some task)
    (changed : ∀ running, project.startProjected task = .ok running →
      ¬ Undisturbed taskId project (running.markRunning host task event) →
      announces (running.markRunning host task event) = true) :
    Disturbs taskId project (if task.status ∈ advanced then .ok (false, project)
      else do
        let running ← project.startProjected task
        return (announces (running.markRunning host task event),
          running.markRunning host task event)) ↔
      ¬ (task.status ∈ advanced ∨ ¬ Runnable project task ∨
        task.status = .running ∧ task.runRef = some event.executionId) := by
  by_cases isAdvanced : task.status ∈ advanced
  · rw [if_pos isAdvanced]
    exact iff_of_false not_disturbs_same (not_not.2 (Or.inl isAdvanced))
  · rw [if_neg isAdvanced]
    by_cases runnable : Runnable project task
    · obtain ⟨running, started⟩ := startProjected_of found runnable
      have announced := changed running started
      rw [started]
      change Disturbs taskId project (.ok (_, running.markRunning host task event)) ↔ _
      rw [disturbs_iff _ announced, marked_undisturbed_iff found started]
      refine not_congr ⟨fun same => Or.inr (Or.inr same), ?_⟩
      intro rests
      rcases rests with advances | unable | same
      · exact absurd advances isAdvanced
      · exact absurd runnable unable
      · exact same
    · obtain ⟨error, raised⟩ := startProjected_error found runnable
      rw [raised]
      exact iff_of_false (not_disturbs_error error) (not_not.2 (Or.inr (Or.inl runnable)))

theorem projectClaimed_disturbs_iff (found : project.findTask taskId = some task) :
    Disturbs taskId project (project.projectClaimed host task event) ↔
      ¬ (task.status ∈ advanced ∨ ¬ Runnable project task ∨
        task.status = .running ∧ task.runRef = some event.executionId) := by
  refine marks_disturbs_iff (fun after => after.changedFrom task) found ?_
  intro running started disturbed
  have marked := findTask_marked host event found started
  rw [undisturbed_iff found marked] at disturbed
  obtain rfl := findTask_id found
  exact changedFrom_of marked rfl disturbed

theorem projectQuestion_disturbs_iff (found : project.findTask taskId = some task) :
    Disturbs taskId project (project.projectQuestion host task event) ↔
      ¬ (task.status ∈ advanced ∨ ¬ Runnable project task ∨
        task.status = .running ∧ task.runRef = some event.executionId) :=
  marks_disturbs_iff (fun _ => true) found (fun _ _ _ => rfl)

theorem projectArtifact_of {artifact : String} (hasText : artifactText host event = some artifact)
    (started : project.startProjected task = .ok running) :
    project.projectArtifact host task event =
      ((running.setRunRef task event).submitTask task.id artifact host.now).mapError .lifecycle >>=
        (fun submitted =>
          .ok ((submitted.setTask task.id (fun task =>
              { task with runStartedAt := none })).changedFrom task,
            submitted.setTask task.id (fun task => { task with runStartedAt := none }))) := by
  unfold projectArtifact
  rw [hasText]
  exact bind_of_ok _ started

theorem submitTask_gate (artifact now : String) (found : project.findTask taskId = some task)
    (isGate : task.isGate = true) :
    ∃ error, project.submitTask taskId artifact now = .error error := by
  cases submitted : project.submitTask taskId artifact now with
  | error error => exact ⟨error, rfl⟩
  | ok after =>
    obtain ⟨found', isFound, notGate, _⟩ := submitTask_ok submitted
    rw [found] at isFound
    cases isFound
    exact absurd (isGate.symm.trans notGate) Bool.noConfusion

theorem ready_artifactVersions (other : CrewProject) (task : CrewTask) :
    (other.ready task).artifactVersions = task.artifactVersions := by
  unfold ready
  split
  · rfl
  · rfl

section

variable (found : project.findTask taskId = some task)

include found

theorem submitTask_versions {artifact now : String}
    (submitted : project.submitTask taskId artifact now = .ok after) :
    ∃ task', after.findTask taskId = some task' ∧
      task'.artifactVersions.length = task.artifactVersions.length + 1 := by
  obtain ⟨found', isFound, _, _, rfl⟩ := submitTask_ok submitted
  rw [found] at isFound
  cases isFound
  refine ⟨_, findTask_recompute (findTask_setTask _ (fun _ => rfl) found), ?_⟩
  rw [ready_artifactVersions]
  exact List.length_append

theorem projectArtifact_disturbs_iff :
    Disturbs taskId project (project.projectArtifact host task event) ↔
      ¬ (artifactText host event = none ∨ ¬ Runnable project task ∨ task.isGate = true) := by
  cases hasText : artifactText host event with
  | none =>
    unfold projectArtifact
    rw [hasText]
    exact iff_of_false (not_disturbs_error _) (not_not.2 (Or.inl rfl))
  | some artifact =>
    by_cases runnable : Runnable project task
    · obtain ⟨running, started⟩ := startProjected_of found runnable
      have marked : (running.setRunRef task event).findTask taskId =
          some { task with status := .running, runRef := some event.executionId } := by
        have marked := findTask_setRunRef event (startProjected_ok found started).2
        unfold setRunRef at marked ⊢
        exact marked
      obtain rfl := findTask_id found
      rw [projectArtifact_of hasText started]
      cases isGate : task.isGate with
      | true =>
        obtain ⟨error, refused⟩ := submitTask_gate artifact host.now marked isGate
        rw [refused]
        exact iff_of_false (not_disturbs_error _) (not_not.2 (Or.inr (Or.inr rfl)))
      | false =>
        have submits : (running.setRunRef task event).submitTask task.id artifact host.now = _ :=
          submitTask_running artifact host.now marked isGate rfl
        obtain ⟨task', found', longer⟩ := submitTask_versions marked submits
        have isSubmitted := findTask_setTask (fun task : CrewTask =>
          { task with runStartedAt := none }) (fun _ => rfl) found'
        have differs : task'.artifactVersions.length ≠ task.artifactVersions.length :=
          Nat.ne_of_gt (longer ▸ Nat.lt_succ_self _)
        rw [submits]
        refine iff_of_true ⟨_, congrArg Except.ok (Prod.ext ?_ rfl), ?_⟩ ?_
        · exact changedFrom_of_versions isSubmitted differs
        · rw [undisturbed_iff found isSubmitted]
          intro same
          exact differs (congrArg List.length (congrArg Footprint.artifactVersions same))
        · rintro (noText | unable | gate)
          · cases noText
          · exact unable runnable
          · cases gate
    · obtain ⟨error, raised⟩ := startProjected_error found runnable
      unfold projectArtifact
      rw [hasText]
      change Disturbs taskId project (project.startProjected task >>= _) ↔ _
      rw [raised]
      exact iff_of_false (not_disturbs_error error) (not_not.2 (Or.inr (Or.inl runnable)))

theorem block_disturbs_iff (reason : String) :
    Disturbs taskId project (.ok (project.block task event reason)) ↔
      ¬ (task.status = .blocked ∧ task.blocker = some reason ∧
        task.runRef = some event.executionId) := by
  have changes : (project.block task event reason).2.findTask taskId =
      some { task with
        status := .blocked
        blocker := some reason
        runRef := some event.executionId
        runStartedAt := none } := by
    obtain rfl := findTask_id found
    exact findTask_setTask (fun task =>
      { task with
        status := .blocked
        blocker := some reason
        runRef := some event.executionId
        runStartedAt := none }) (fun _ => rfl) found
  have isOutcome : project.block task event reason =
      ((project.block task event reason).2.changedFrom task,
        (project.block task event reason).2) := rfl
  rw [isOutcome, disturbs_iff]
  · rw [undisturbed_iff found changes]
    unfold footprint
    rw [Footprint.mk.injEq]
    refine not_congr ⟨fun same => ⟨same.1.symm, same.2.1.symm, same.2.2.2.2.symm⟩, ?_⟩
    intro same
    exact ⟨same.1.symm, same.2.1.symm, rfl, rfl, same.2.2.symm⟩
  · intro disturbed
    rw [undisturbed_iff found changes] at disturbed
    obtain rfl := findTask_id found
    exact changedFrom_of changes rfl disturbed

theorem blockUnlessAdvanced_disturbs_iff (reason : String) :
    Disturbs taskId project (.ok (if task.status ∈ advanced then (false, project)
      else project.block task event reason)) ↔
      ¬ (task.status ∈ advanced ∨ task.status = .blocked ∧ task.blocker = some reason ∧
        task.runRef = some event.executionId) := by
  by_cases isAdvanced : task.status ∈ advanced
  · rw [if_pos isAdvanced]
    exact iff_of_false not_disturbs_same (not_not.2 (Or.inl isAdvanced))
  · rw [if_neg isAdvanced, block_disturbs_iff found]
    exact not_congr (or_iff_right isAdvanced).symm

theorem blockIfOpen_disturbs_iff (reason : String) :
    Disturbs taskId project (.ok (project.blockIfOpen task event reason)) ↔
      ¬ task.status ∉ [TaskStatus.assigned, .running, .rework] := by
  unfold blockIfOpen
  by_cases isOpen : task.status ∈ [TaskStatus.assigned, .running, .rework]
  · have notAdvanced : task.status ∉ advanced := by
      intro isAdvanced
      revert isOpen isAdvanced
      cases task.status with
      | todo | assigned | running | submitted | inReview | rework | done | blocked => decide
    have notBlocked : task.status ≠ .blocked := by
      intro isBlocked
      rw [isBlocked] at isOpen
      revert isOpen
      decide
    rw [if_neg notAdvanced, if_neg notBlocked, if_neg (not_not.2 isOpen), block_disturbs_iff found]
    exact iff_of_true (fun same => notBlocked same.1) (not_not.2 isOpen)
  · refine iff_of_false ?_ (not_not.2 isOpen)
    rw [if_pos isOpen]
    split
    · exact not_disturbs_same
    · split
      · exact not_disturbs_same
      · exact not_disturbs_same

theorem projectRetryScheduled_disturbs_iff :
    Disturbs taskId project (.ok (project.projectRetryScheduled task event)) ↔
      ¬ (task.status ∈ advanced ∨ task.runRef = some event.executionId) := by
  unfold projectRetryScheduled
  by_cases isAdvanced : task.status ∈ advanced
  · rw [if_pos isAdvanced]
    exact iff_of_false not_disturbs_same (not_not.2 (Or.inl isAdvanced))
  · have changes := findTask_setRunRef event found
    rw [if_neg isAdvanced, disturbs_iff true (fun _ => rfl), undisturbed_iff found changes]
    unfold footprint
    rw [Footprint.mk.injEq]
    refine not_congr ⟨fun same => Or.inr same.2.2.2.2.symm, ?_⟩
    intro rests
    exact ⟨rfl, rfl, rfl, rfl, ((or_iff_right isAdvanced).1 rests).symm⟩

end

theorem projectTask_disturbs_iff (host : ProjectionHost) (event : OutboxRow)
    (snapshot : ExecutionSnapshot) (kind : EventKind) (found : project.findTask taskId = some task) :
    Disturbs taskId project (project.projectTask host kind task event snapshot) ↔
      ¬ Rests host project task event kind := by
  cases kind with
  | started => exact projectStarted_disturbs_iff found
  | claimed => exact projectClaimed_disturbs_iff found
  | artifact => exact projectArtifact_disturbs_iff found
  | blocked | recoveryBlocked => exact blockUnlessAdvanced_disturbs_iff found _
  | question => exact projectQuestion_disturbs_iff found
  | retryScheduled => exact projectRetryScheduled_disturbs_iff found
  | failed | deadLettered | cancelled => exact blockIfOpen_disturbs_iff found _

/-! ### Announcements -/

variable {kind : EventKind}

theorem announcement_author (announced : CrewTask) :
    (project.announcement host event snapshot kind announced).authorKind =
      if kind = .started then .anna else .worker := by
  cases kind with
  | started | claimed | artifact | blocked | question | recoveryBlocked | retryScheduled | failed
  | deadLettered | cancelled => rfl

theorem missingProvenance_eq_none {message : ChannelMessage} {profile : String}
    {executionId : ExecutionId}
    (isProfile : message.authorKind = .worker → message.workerProfileRef = some profile)
    (isCause : message.authorKind = .worker → message.causedByExecutionId = some executionId) :
    missingProvenance host message = none ↔
      ¬ (message.authorKind = .worker ∧ (host.strip profile = "" ∨ host.strip executionId = "")) := by
  unfold missingProvenance
  by_cases byWorker : message.authorKind = .worker
  · rw [if_neg (not_not.2 byWorker), isProfile byWorker, isCause byWorker, Option.all_some,
      Option.all_some]
    by_cases noProfile : host.strip profile = ""
    · rw [if_pos (decide_eq_true noProfile)]
      exact iff_of_false nofun (not_not.2 ⟨byWorker, Or.inl noProfile⟩)
    · rw [if_neg (fun isBlank => noProfile (of_decide_eq_true isBlank))]
      by_cases noExecution : host.strip executionId = ""
      · rw [if_pos (decide_eq_true noExecution)]
        exact iff_of_false nofun (not_not.2 ⟨byWorker, Or.inr noExecution⟩)
      · rw [if_neg (fun isBlank => noExecution (of_decide_eq_true isBlank))]
        exact iff_of_true rfl (fun anonymous => anonymous.2.elim noProfile noExecution)
  · rw [if_pos byWorker]
    exact iff_of_true rfl (fun anonymous => byWorker anonymous.1)

theorem channelMessage_complete_iff (announced : CrewTask) (auditRef : String)
    (announcement : Announcement) :
    missingProvenance host (project.channelMessage host event snapshot announced auditRef
      announcement) = none ↔ ¬ (announcement.authorKind = .worker ∧ Anonymous host event snapshot) :=
  missingProvenance_eq_none (fun byWorker => if_pos byWorker) (fun byWorker => if_pos byWorker)

theorem announce_ok (project : CrewProject) (announced : CrewTask)
    (named : ¬ (kind ≠ .started ∧ Anonymous host event snapshot)) :
    ∃ auditRef audited effects,
      project.announce host event snapshot kind announced = .ok (auditRef, audited, effects) ∧
      audited.tasks = project.tasks ∧ project.auditEvents <+: audited.auditEvents ∧
      effects.changed = true := by
  unfold announce
  dsimp only
  split
  · rename_i field missing
    refine absurd (missing.symm.trans ((channelMessage_complete_iff _ _ _).2 ?_)) nofun
    rw [announcement_author]
    intro anonymous
    refine named ⟨?_, anonymous.2⟩
    intro isStarted
    rw [if_pos isStarted] at anonymous
    exact absurd anonymous.1 (by decide)
  · exact ⟨_, _, _, rfl, rfl, List.prefix_append _ _, rfl⟩

theorem announce_error (project : CrewProject) (announced : CrewTask) (notStarted : kind ≠ .started)
    (anonymous : Anonymous host event snapshot) :
    ∃ error, project.announce host event snapshot kind announced = .error error := by
  unfold announce
  dsimp only
  split
  · exact ⟨_, rfl⟩
  · rename_i complete
    refine absurd ?_ ((channelMessage_complete_iff _ _ _).1 complete)
    rw [announcement_author, if_neg notStarted]
    exact ⟨rfl, anonymous⟩

end CrewProject

section Events

variable {host : ProjectionHost} {event : OutboxRow} {snapshot : ExecutionSnapshot}
  {taskId : TaskId} {project : CrewProject} {task : CrewTask}
variable {audited : CrewProject}

theorem undisturbed_of_tasks (taskId : TaskId) (before : CrewProject) {after : CrewProject}
    (sameTasks : audited.tasks = after.tasks) :
    Undisturbed taskId before audited ↔ Undisturbed taskId before after := by
  unfold Undisturbed CrewProject.findTask
  rw [sameTasks]

theorem notifyNewlyActive_changed (audited : CrewProject) (auditRef : String)
    (effects : ProjectionEffects) (active : List CrewTask) :
    (audited.notifyNewlyActive host event auditRef effects active).changed = effects.changed := by
  induction active generalizing effects with
  | nil => rfl
  | cons task rest ih =>
    rw [CrewProject.notifyNewlyActive]
    split
    · rw [ih]
    · split
      · rw [ih]
      · rw [ih]

variable {kind : EventKind} {after : CrewProject} {error : ProjectionError}

section

variable (found : project.findTask taskId = some task)

include found

theorem mutate_raised (isKind : eventKind event.type = some kind)
    (raised : project.projectTask host kind task event snapshot = .error error) :
    mutateProjectForExecutionEvent host project event snapshot taskId = .error error := by
  unfold mutateProjectForExecutionEvent
  rw [found]
  dsimp only
  rw [isKind]
  dsimp only
  rw [raised]
  rfl

theorem mutate_quiet (isKind : eventKind event.type = some kind)
    (projected : project.projectTask host kind task event snapshot = .ok (false, after)) :
    mutateProjectForExecutionEvent host project event snapshot taskId =
      .ok (after, { changed := false, channelMessages := [], notifications := [] }) := by
  unfold mutateProjectForExecutionEvent
  rw [found]
  dsimp only
  rw [isKind]
  dsimp only
  rw [projected]
  rfl

theorem mutate_unannounced (isKind : eventKind event.type = some kind)
    (projected : project.projectTask host kind task event snapshot = .ok (true, after))
    (notStarted : kind ≠ .started) (anonymous : Anonymous host event snapshot) :
    ∃ error, mutateProjectForExecutionEvent host project event snapshot taskId = .error error := by
  obtain ⟨error, raised⟩ := CrewProject.announce_error after
    ((after.findTask taskId).getD task) notStarted anonymous
  refine ⟨error, ?_⟩
  unfold mutateProjectForExecutionEvent
  rw [found]
  dsimp only
  rw [isKind]
  dsimp only
  rw [bind_of_ok _ projected]
  dsimp only
  rw [if_pos rfl, raised]
  rfl

theorem mutate_announced (isKind : eventKind event.type = some kind)
    (projected : project.projectTask host kind task event snapshot = .ok (true, after))
    (named : ¬ (kind ≠ .started ∧ Anonymous host event snapshot)) :
    ∃ audited effects,
      mutateProjectForExecutionEvent host project event snapshot taskId = .ok (audited, effects) ∧
      audited.tasks = after.tasks ∧ after.auditEvents <+: audited.auditEvents ∧
      effects.changed = true := by
  obtain ⟨auditRef, audited, effects, announced, sameTasks, grows, isChanged⟩ :=
    CrewProject.announce_ok after ((after.findTask taskId).getD task) named
  unfold mutateProjectForExecutionEvent
  rw [found]
  dsimp only
  rw [isKind]
  dsimp only
  rw [bind_of_ok _ projected]
  dsimp only
  rw [if_pos rfl, bind_of_ok _ announced]
  cases kind with
  | artifact =>
    exact ⟨audited, _, rfl, sameTasks, grows, (notifyNewlyActive_changed _ _ _ _).trans isChanged⟩
  | started | claimed | blocked | question | recoveryBlocked | retryScheduled | failed
  | deadLettered | cancelled => exact ⟨audited, effects, rfl, sameTasks, grows, isChanged⟩

theorem mutate_disturbs_iff (isKind : eventKind event.type = some kind) :
    (∃ audited effects,
      mutateProjectForExecutionEvent host project event snapshot taskId = .ok (audited, effects) ∧
      effects.changed = true ∧ ¬ Undisturbed taskId project audited) ↔
    ¬ Stops host project task event snapshot kind := by
  have disturbsIff := CrewProject.projectTask_disturbs_iff host event snapshot kind found
  cases projected : project.projectTask host kind task event snapshot with
  | error error =>
    rw [projected] at disturbsIff
    have rests := not_not.1 (disturbsIff.not.1 (CrewProject.not_disturbs_error error))
    refine iff_of_false ?_ (not_not.2 (Or.inl rests))
    rintro ⟨audited, effects, mutated, _⟩
    rw [mutate_raised found isKind projected] at mutated
    cases mutated
  | ok outcome =>
    obtain ⟨announces, after⟩ := outcome
    rw [projected] at disturbsIff
    cases announces with
    | false =>
      have rests : Rests host project task event kind := by
        refine not_not.1 (disturbsIff.not.1 ?_)
        rintro ⟨other, same, _⟩
        cases same
      refine iff_of_false ?_ (not_not.2 (Or.inl rests))
      rintro ⟨audited, effects, mutated, isChanged, _⟩
      rw [mutate_quiet found isKind projected] at mutated
      cases mutated
      cases isChanged
    | true =>
      rw [CrewProject.disturbs_iff true (fun _ => rfl)] at disturbsIff
      by_cases refused : kind ≠ .started ∧ Anonymous host event snapshot
      · refine iff_of_false ?_ (not_not.2 (Or.inr refused))
        rintro ⟨audited, effects, mutated, _⟩
        obtain ⟨error, raised⟩ := mutate_unannounced found isKind projected refused.1 refused.2
        rw [raised] at mutated
        cases mutated
      · obtain ⟨audited, effects, mutated, sameTasks, _, isChanged⟩ :=
          mutate_announced found isKind projected refused
        have disturbed := (undisturbed_of_tasks taskId project sameTasks).not.trans disturbsIff
        unfold Stops
        rw [not_or, ← disturbed]
        constructor
        · rintro ⟨audited', effects', mutated', _, isDisturbed⟩
          rw [mutated] at mutated'
          cases mutated'
          exact ⟨isDisturbed, refused⟩
        · intro disturbs
          exact ⟨audited, effects, mutated, isChanged, disturbs.1⟩

end

/-! ### Steps and runs -/

theorem Undisturbed.refl : Undisturbed taskId project project := rfl

theorem apply_raised {store : CrewStore} (isNew : (event.executionId, event.seq) ∉ store.receipts)
    (raised : mutateProjectForExecutionEvent host store.project event snapshot taskId = .error error) :
    store.applyExecutionProjection host event snapshot taskId = .error error := by
  unfold CrewStore.applyExecutionProjection
  rw [if_neg isNew, raised]
  rfl

variable {effects : ProjectionEffects}

theorem apply_mutated {store : CrewStore} (isNew : (event.executionId, event.seq) ∉ store.receipts)
    (mutated : mutateProjectForExecutionEvent host store.project event snapshot taskId = .ok (audited, effects)) :
    store.applyExecutionProjection host event snapshot taskId =
      .ok (effects.changed,
        { project := if effects.changed then audited else store.project
          receipts := store.receipts ++ [(event.executionId, event.seq)] }) := by
  unfold CrewStore.applyExecutionProjection
  rw [if_neg isNew, mutated]
  rfl

variable {before : CrewStore}

/-- The projection of a new event either fails or stores what the event makes
of the project, if that counts as a change. -/
theorem projected_project {after : CrewStore}
    (isNew : (event.executionId, event.seq) ∉ before.receipts)
    (step : CrewStep host taskId before (.project event snapshot) after) :
    (∃ error, mutateProjectForExecutionEvent host before.project event snapshot taskId =
        .error error ∧ after.project = before.project) ∨
    ∃ audited effects,
      mutateProjectForExecutionEvent host before.project event snapshot taskId =
        .ok (audited, effects) ∧
      after.project = if effects.changed then audited else before.project := by
  cases mutated : mutateProjectForExecutionEvent host before.project event snapshot taskId with
  | error error =>
    have isApplied := apply_raised isNew mutated
    cases step with
    | projected succeeded => cases isApplied.symm.trans succeeded
    | failed raised => exact Or.inl ⟨error, rfl, rfl⟩
  | ok outcome =>
    have isApplied := apply_mutated isNew mutated
    cases step with
    | projected succeeded =>
      cases isApplied.symm.trans succeeded
      exact Or.inr ⟨outcome.1, outcome.2, rfl, rfl⟩
    | failed raised => cases isApplied.symm.trans raised

theorem unchanged_of_received {after : CrewStore}
    (received : (event.executionId, event.seq) ∈ before.receipts)
    (step : CrewStep host taskId before (.project event snapshot) after) : after = before := by
  have isApplied : before.applyExecutionProjection host event snapshot taskId =
      .ok (false, before) := if_pos received
  cases step with
  | projected succeeded =>
    cases isApplied.symm.trans succeeded
    rfl
  | failed raised => rfl

theorem mutate_foreign (notKind : eventKind event.type = none)
    (mutated : mutateProjectForExecutionEvent host project event snapshot taskId = .ok (audited, effects)) :
    effects.changed = false := by
  unfold mutateProjectForExecutionEvent at mutated
  split at mutated
  · cases mutated
  · rw [notKind] at mutated
    cases mutated
    rfl

theorem mutate_absent (absent : project.findTask taskId = none) :
    mutateProjectForExecutionEvent host project event snapshot taskId =
      .error (.taskNotFound taskId project.id) := by
  unfold mutateProjectForExecutionEvent
  rw [absent]

theorem step_undisturbed_iff {after : CrewStore}
    (step : CrewStep host taskId before (.project event snapshot) after) :
    Undisturbed taskId before.project after.project ↔ Spares host before event snapshot taskId := by
  by_cases received : (event.executionId, event.seq) ∈ before.receipts
  · rw [unchanged_of_received received step]
    exact iff_of_true Undisturbed.refl (Or.inl received)
  · unfold Spares
    rw [or_iff_right received]
    have projected := projected_project received step
    cases found : before.project.findTask taskId with
    | none =>
      have spares : ∀ task kind, none = some task → eventKind event.type = some kind →
          Stops host before.project task event snapshot kind := by
        intro task kind isTask
        cases isTask
      refine iff_of_true ?_ spares
      rcases projected with ⟨error, _, same⟩ | ⟨audited, effects, mutated, _⟩
      · rw [same]
        exact Undisturbed.refl
      · cases (mutate_absent found).symm.trans mutated
    | some task =>
      cases isKind : eventKind event.type with
      | none =>
        have spares : ∀ task' kind, some task = some task' → none = some kind →
            Stops host before.project task' event snapshot kind := by
          intro task' kind _ isKind
          cases isKind
        refine iff_of_true ?_ spares
        rcases projected with ⟨error, _, same⟩ | ⟨audited, effects, mutated, isProject⟩
        · rw [same]
          exact Undisturbed.refl
        · rw [isProject, mutate_foreign isKind mutated]
          exact Undisturbed.refl
      | some kind =>
        have disturbsIff : _ ↔ ¬ Stops host before.project task event snapshot kind :=
          mutate_disturbs_iff found isKind
        have sparesIff : (∀ task' kind', some task = some task' → some kind = some kind' →
            Stops host before.project task' event snapshot kind') ↔
            Stops host before.project task event snapshot kind := by
          constructor
          · intro stops
            exact stops task kind rfl rfl
          · intro stops task' kind' sameTask sameKind
            cases sameTask
            cases sameKind
            exact stops
        rw [sparesIff, ← not_iff_not, ← disturbsIff]
        rcases projected with ⟨error, raised, same⟩ | ⟨audited, effects, mutated, isProject⟩
        · rw [same]
          refine iff_of_false (not_not.2 Undisturbed.refl) ?_
          rintro ⟨audited, effects, mutated, _⟩
          cases raised.symm.trans mutated
        · constructor
          · intro disturbed
            cases isChanged : effects.changed with
            | false =>
              rw [isProject, isChanged] at disturbed
              exact absurd Undisturbed.refl disturbed
            | true =>
              rw [isProject, isChanged] at disturbed
              exact ⟨audited, effects, mutated, isChanged, disturbed⟩
          · rintro ⟨audited', effects', mutated', isChanged, disturbed⟩
            cases mutated.symm.trans mutated'
            rw [isProject, isChanged]
            exact disturbed

end Events

def Applies (executionId : ExecutionId) (move : Move CrewStore CrewMove) : Prop :=
  ∃ event snapshot, move.label = .project event snapshot ∧ event.executionId = executionId ∧
    move.after.receipts = move.before.receipts ++ [(event.executionId, event.seq)]

/-- The moves that project an event of the earlier execution after one of the
later execution has been applied. -/
def EveryLate (earlier later : ExecutionId) (trace : List (Move CrewStore CrewMove))
    (P : Move CrewStore CrewMove → OutboxRow → ExecutionSnapshot → Prop) : Prop :=
  ∀ early move rest event snapshot, trace = early ++ move :: rest →
    (∃ applied ∈ early, Applies later applied) → move.label = .project event snapshot →
    event.executionId = earlier → P move event snapshot

/-- In every run, the late events of an earlier execution leave the task alone
exactly when each of them is spared. -/
theorem late_events_undisturbed_iff {host : ProjectionHost} {taskId : TaskId}
    {initial last : CrewStore} {trace : List (Move CrewStore CrewMove)}
    (earlier later : ExecutionId) (run : Run (CrewStep host taskId) initial trace last) :
    EveryLate earlier later trace (fun move _ _ =>
      Undisturbed taskId move.before.project move.after.project) ↔
    EveryLate earlier later trace (fun move event snapshot =>
      Spares host move.before event snapshot taskId) := by
  have pointwise : ∀ move ∈ trace, ∀ event snapshot, move.label = .project event snapshot →
      (Undisturbed taskId move.before.project move.after.project ↔
        Spares host move.before event snapshot taskId) := by
    intro move member event snapshot isLabel
    have step := run.step_of_mem member
    rw [isLabel] at step
    exact step_undisturbed_iff step
  have isMember : ∀ {early move rest}, trace = early ++ move :: rest → move ∈ trace := by
    intro early move rest split
    rw [split]
    exact List.mem_append_right _ List.mem_cons_self
  constructor
  · intro undisturbed early move rest event snapshot split applied isLabel isEarlier
    exact (pointwise move (isMember split) event snapshot isLabel).1
      (undisturbed early move rest event snapshot split applied isLabel isEarlier)
  · intro spares early move rest event snapshot split applied isLabel isEarlier
    exact (pointwise move (isMember split) event snapshot isLabel).2
      (spares early move rest event snapshot split applied isLabel isEarlier)

def CrewMove.key : CrewMove → Option (ExecutionId × Nat)
  | project event _ => some (event.executionId, event.seq)
  | write => none

/-- The events of each execution are projected in their order. -/
def InOrder (trace : List (Move CrewStore CrewMove)) : Prop :=
  (trace.filterMap (fun move => move.label.key)).Pairwise (fun first second =>
    first.1 = second.1 → first.2 < second.2)

def plainHost : ProjectionHost where
  str
    | .str text => text
    | _ => ""
  strip text := text
  iso _ := "2026-01-01T00:00:00+00:00"
  now := "2026-01-01T00:00:00+00:00"

def executionEvent (executionId : ExecutionId) (seq : Nat) (type : String) :
    OutboxRow × ExecutionSnapshot :=
  ({ id := seq
     executionId
     seq
     type
     payload := []
     createdAt := 0 },
   { executionId
     workspaceId := "ws"
     conversationId := "crew:proj_1"
     channelId := "crew:proj_1"
     subjectRef := "crew:proj_1:task:draft"
     triggerRef := "crew"
     status := .queued
     workerProfileRef := "crew-worker"
     runProfileRef := "default"
     input := []
     state := []
     checkpoint := []
     version := 1
     createdAt := 0
     updatedAt := 0
     attempt := 0
     leaseOwner := none
     leaseToken := 0
     leaseExpiresAt := none
     notBefore := none
     lastErrorCode := none
     linkedExecutionId := none
     redriveMetadata := [] })

def CrewStore.projectOne (host : ProjectionHost) (taskId : TaskId) (store : CrewStore)
    (event : OutboxRow × ExecutionSnapshot) : CrewStore :=
  match store.applyExecutionProjection host event.1 event.2 taskId with
  | .ok (_, after) => after
  | .error _ => store

def CrewStore.projections (host : ProjectionHost) (taskId : TaskId) (store : CrewStore) :
    List (OutboxRow × ExecutionSnapshot) → List (Move CrewStore CrewMove)
  | [] => []
  | event :: rest =>
    ⟨store, .project event.1 event.2, store.projectOne host taskId event⟩ ::
      (store.projectOne host taskId event).projections host taskId rest

theorem CrewStore.run_projections (host : ProjectionHost) (taskId : TaskId) (store : CrewStore)
    (events : List (OutboxRow × ExecutionSnapshot)) :
    ∃ last, Run (CrewStep host taskId) store (store.projections host taskId events) last := by
  induction events generalizing store with
  | nil => exact ⟨store, .nil store⟩
  | cons event rest ih =>
    obtain ⟨last, run⟩ := ih (store.projectOne host taskId event)
    refine ⟨last, .cons ?_ run⟩
    cases applied : store.applyExecutionProjection host event.1 event.2 taskId with
    | error error =>
      have same : store.projectOne host taskId event = store := by
        unfold projectOne
        rw [applied]
      rw [same]
      exact .failed applied
    | ok outcome =>
      have isAfter : store.projectOne host taskId event = outcome.2 := by
        unfold projectOne
        rw [applied]
      rw [isAfter]
      exact .projected applied

/-- A publication whose draft nobody has taken. -/
def openDraft : CrewStore where
  project := publicationProject
  receipts := []

def assignedDraft : CrewStore where
  project := publicationProject.performAll [.assignTask "draft" "ann"]
  receipts := []

theorem late_failure_undisturbed :
    EveryLate "exec_1" "exec_2" (openDraft.projections plainHost "draft"
      [executionEvent "exec_2" 1 "execution.started", executionEvent "exec_1" 3 "execution.failed"])
      (fun move _ _ => Undisturbed "draft" move.before.project move.after.project) := by
  obtain ⟨last, run⟩ := openDraft.run_projections plainHost "draft"
    [executionEvent "exec_2" 1 "execution.started", executionEvent "exec_1" 3 "execution.failed"]
  refine (late_events_undisturbed_iff "exec_1" "exec_2" run).2 ?_
  intro early move rest event snapshot split applied isLabel isEarlier
  cases early with
  | nil =>
    obtain ⟨_, member, _⟩ := applied
    cases member
  | cons first early =>
    obtain ⟨_, second⟩ := List.cons.inj split
    cases early with
    | cons other early =>
      obtain ⟨_, none⟩ := List.cons.inj second
      exact absurd none.symm (List.append_ne_nil_of_right_ne_nil _ (List.cons_ne_nil _ _))
    | nil =>
      obtain ⟨rfl, _⟩ := List.cons.inj second
      cases isLabel
      refine Or.inr ?_
      intro task kind found isKind
      have isFailed : eventKind "execution.failed" = some .failed := by decide +kernel
      cases isFailed.symm.trans isKind
      have isTodo : (((openDraft.projectOne plainHost "draft"
          (executionEvent "exec_2" 1 "execution.started")).project.findTask "draft").map
            CrewTask.status) = some .todo := by decide +kernel
      rw [found] at isTodo
      refine Or.inl ?_
      change task.status ∉ _
      rw [Option.some.inj isTodo]
      decide

/-- A claim of the first execution that comes after the start of the second
takes the task back to the first. -/
theorem late_claim_takes_task_back :
    ¬ ∀ (host : ProjectionHost) (taskId : TaskId) (initial last : CrewStore)
      (trace : List (Move CrewStore CrewMove)) (earlier later : ExecutionId),
      earlier ≠ later → Run (CrewStep host taskId) initial trace last → InOrder trace →
      EveryLate earlier later trace (fun move _ _ =>
        Undisturbed taskId move.before.project move.after.project) := by
  intro claimed
  obtain ⟨last, run⟩ := assignedDraft.run_projections plainHost "draft"
    [executionEvent "exec_1" 1 "execution.started", executionEvent "exec_2" 1 "execution.started",
      executionEvent "exec_1" 2 "execution.claimed", executionEvent "exec_1" 3 "execution.failed"]
  have undisturbed := claimed plainHost "draft" _ _ _ "exec_1" "exec_2" (by decide) run ?_
    [_, _] _ _ _ _ rfl ⟨_, List.mem_cons_of_mem _ (List.mem_singleton.2 rfl), _, _, rfl, rfl, rfl⟩
    rfl rfl
  · revert undisturbed
    unfold Undisturbed
    decide +kernel
  · unfold InOrder
    decide +kernel

end AnnaAgent.Crew
