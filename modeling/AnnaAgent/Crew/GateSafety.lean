/-
Work does not pass a gate that has not been approved.

What one call does to one task is a relation that is reflexive and transitive,
so that the updates of a call compose, and the invariant of a project follows
from it.
-/

import AnnaAgent.Crew.Transitions

namespace AnnaAgent.Crew

open Foundation

/-- The statuses of a task whose work has begun. -/
def started : List TaskStatus := [.running, .submitted, .rework, .done]

/-- Every upstream of the gate is submitted or done. -/
def UpstreamReady (project : CrewProject) (gate : CrewTask) : Prop :=
  ∀ dependency ∈ gate.dependsOn,
    project.statusById dependency = some .submitted ∨ project.statusById dependency = some .done

def DependenciesDone (project : CrewProject) (task : CrewTask) : Prop :=
  ∀ dependency ∈ task.dependsOn, project.statusById dependency = some .done

/-- How a call may complete a task.  A gate is completed by its own approval, and
a task that a gate reviews by the approval of such a gate. -/
def Completes (before : CrewProject) (call : LifecycleCall) (task : CrewTask) : Prop :=
  (task.isGate = true → UpstreamReady before task ∧
    ∃ comment, call = .reviewTask task.id true comment) ∧
  (task.isGate = false → before.hasDownstreamGate task = true →
    ∃ gate ∈ before.tasks, gate.isGate = true ∧ gate.reviewsTaskId = some task.id ∧
      UpstreamReady before gate ∧ ∃ comment, call = .reviewTask gate.id true comment)

/-- What a call may make of a task. -/
structure Advances (before : CrewProject) (call : LifecycleCall) (task task' : CrewTask) :
    Prop where
  sameId : task'.id = task.id
  sameKind : task'.isGate = task.isGate
  sameDependencies : task'.dependsOn = task.dependsOn
  sameReviewed : task'.reviewsTaskId = task.reviewsTaskId
  staysDone : task.status = .done → task'.status = .done
  versions : task.artifactVersions <+: task'.artifactVersions
  completes : task.status ≠ .done → task'.status = .done → Completes before call task

def Numbered (task : CrewTask) : Prop :=
  task.artifactVersions.map ArtifactVersion.version = List.range' 1 task.artifactVersions.length

/-- A gate has no assignee and is never worked on. -/
def GateIdle (task : CrewTask) : Prop :=
  task.isGate = true → task.assigneeMemberId = none ∧
    task.status ∈ [TaskStatus.todo, .blocked, .done]

structure Progress (before : CrewProject) (call : LifecycleCall) (task task' : CrewTask) : Prop
    extends Advances before call task task' where
  starts : task'.isGate = false → task'.status ∈ started →
    task.status ∈ started ∨ before.depsSatisfied task = true
  numbered : Numbered task → Numbered task'
  idle : GateIdle task → GateIdle task'

namespace CrewProject

variable {project : CrewProject}

theorem depsSatisfied_status {task : CrewTask} (satisfied : project.depsSatisfied task = true)
    {dependency : TaskId} (member : dependency ∈ task.dependsOn) :
    ∃ status ∈ satisfying task, project.statusById dependency = some status := by
  unfold depsSatisfied at satisfied
  rw [List.all_eq_true] at satisfied
  have holds := satisfied dependency member
  cases isStatus : project.statusById dependency with
  | none =>
    rw [isStatus] at holds
    cases holds
  | some status =>
    rw [isStatus] at holds
    exact ⟨status, of_decide_eq_true holds, rfl⟩

theorem upstreamReady_of_satisfied {gate : CrewTask} (isGate : gate.isGate = true)
    (satisfied : project.depsSatisfied gate = true) : UpstreamReady project gate := by
  intro dependency member
  obtain ⟨status, isSatisfying, isStatus⟩ := depsSatisfied_status satisfied member
  unfold satisfying at isSatisfying
  rw [if_pos isGate] at isSatisfying
  rw [isStatus]
  rcases List.mem_cons.1 isSatisfying with isSubmitted | isLater
  · exact Or.inl (congrArg some isSubmitted)
  · exact Or.inr (congrArg some (List.mem_singleton.1 isLater))

theorem satisfied_of_upstreamReady {gate : CrewTask} (isGate : gate.isGate = true)
    (ready : UpstreamReady project gate) : project.depsSatisfied gate = true := by
  unfold depsSatisfied satisfying
  rw [if_pos isGate, List.all_eq_true]
  intro dependency member
  rcases ready dependency member with isSubmitted | isDone
  · rw [isSubmitted]
    decide
  · rw [isDone]
    decide

theorem dependenciesDone_of_satisfied {task : CrewTask} (notGate : task.isGate = false)
    (satisfied : project.depsSatisfied task = true) : DependenciesDone project task := by
  intro dependency member
  obtain ⟨status, isSatisfying, isStatus⟩ := depsSatisfied_status satisfied member
  unfold satisfying at isSatisfying
  rw [notGate, if_neg Bool.false_ne_true] at isSatisfying
  rw [isStatus, List.mem_singleton.1 isSatisfying]

theorem statusById_done {other : CrewProject}
    (related : List.Forall₂ (fun task task' => task.id = task'.id ∧
      (task.status = .done → task'.status = .done)) project.tasks other.tasks)
    {taskId : TaskId} (isDone : project.statusById taskId = some .done) :
    other.statusById taskId = some .done := by
  have statuses := statusById_forall₂
    (R := fun status status' => status = .done → status' = .done) related taskId
  rw [isDone] at statuses
  cases isStatus : other.statusById taskId with
  | none =>
    rw [isStatus] at statuses
    cases statuses
  | some status =>
    rw [isStatus] at statuses
    cases statuses with
    | some stays => rw [stays rfl]

theorem readyStatus_ne_done {task : CrewTask} : readyStatus task ≠ .done := by
  rcases readyStatus_cases task with isReady | isReady
  · rw [isReady]
    decide
  · rw [isReady]
    decide

theorem readyStatus_not_started {task : CrewTask} : readyStatus task ∉ started := by
  rcases readyStatus_cases task with isReady | isReady
  · rw [isReady]
    decide
  · rw [isReady]
    decide

end CrewProject

section Relation

variable {before : CrewProject} {call : LifecycleCall} {task task' task'' : CrewTask}

theorem Completes.of_same (completes : Completes before call task') (sameId : task'.id = task.id)
    (sameKind : task'.isGate = task.isGate) (sameDependencies : task'.dependsOn = task.dependsOn) :
    Completes before call task := by
  unfold Completes UpstreamReady CrewProject.hasDownstreamGate at completes ⊢
  rw [sameId, sameKind, sameDependencies] at completes
  exact completes

namespace Progress

theorem refl (before : CrewProject) (call : LifecycleCall) (task : CrewTask) :
    Progress before call task task where
  sameId := rfl
  sameKind := rfl
  sameDependencies := rfl
  sameReviewed := rfl
  staysDone isDone := isDone
  versions := List.prefix_rfl
  completes notDone isDone := absurd isDone notDone
  starts _ isStarted := Or.inl isStarted
  numbered isNumbered := isNumbered
  idle isIdle := isIdle

theorem depsSatisfied_eq (progress : Progress before call task task') :
    before.depsSatisfied task' = before.depsSatisfied task := by
  unfold CrewProject.depsSatisfied CrewProject.satisfying
  rw [progress.sameDependencies, progress.sameKind]

theorem trans (first : Progress before call task task')
    (second : Progress before call task' task'') : Progress before call task task'' where
  sameId := second.sameId.trans first.sameId
  sameKind := second.sameKind.trans first.sameKind
  sameDependencies := second.sameDependencies.trans first.sameDependencies
  sameReviewed := second.sameReviewed.trans first.sameReviewed
  staysDone isDone := second.staysDone (first.staysDone isDone)
  versions := first.versions.trans second.versions
  completes notDone isDone := by
    by_cases between : task'.status = .done
    · exact first.completes notDone between
    · exact (second.completes between isDone).of_same first.sameId first.sameKind
        first.sameDependencies
  starts notGate isStarted := by
    rcases second.starts notGate isStarted with between | satisfied
    · exact first.starts (second.sameKind.symm.trans notGate) between
    · exact Or.inr (first.depsSatisfied_eq.symm.trans satisfied)
  numbered isNumbered := second.numbered (first.numbered isNumbered)
  idle isIdle := second.idle (first.idle isIdle)

theorem compose {call : LifecycleCall} {first middle last : List CrewTask}
    (early : List.Forall₂ (Progress before call) first middle)
    (late : List.Forall₂ (Progress before call) middle last) :
    List.Forall₂ (Progress before call) first last := by
  refine (forall₂_comp early late).imp ?_
  intro task task' between
  obtain ⟨_, toBetween, fromBetween⟩ := between
  exact toBetween.trans fromBetween

theorem ready {project : CrewProject} (task : CrewTask) :
    Progress before call task (project.ready task) := by
  unfold CrewProject.ready
  split
  · rename_i wakes
    refine { Progress.refl before call task with
      staysDone := ?_, completes := ?_, starts := ?_, idle := ?_ }
    · intro isDone
      rw [wakes.1] at isDone
      cases isDone
    · intro _ isDone
      exact absurd isDone CrewProject.readyStatus_ne_done
    · intro _ isStarted
      exact absurd isStarted CrewProject.readyStatus_not_started
    · intro isIdle isGate
      have noAssignee : task.assigneeMemberId = none := (isIdle isGate).1
      refine ⟨noAssignee, ?_⟩
      have isTodo : CrewProject.readyStatus task = .todo := by
        unfold CrewProject.readyStatus
        rw [noAssignee]
        rfl
      change CrewProject.readyStatus task ∈ [TaskStatus.todo, .blocked, .done]
      rw [isTodo]
      decide
  · exact refl before call task

end Progress

end Relation

/-! ### Calls -/

namespace CrewProject

variable {project after : CrewProject}

def GatesIdle (project : CrewProject) : Prop :=
  ∀ task ∈ project.tasks, GateIdle task

variable {taskId gateTaskId : TaskId} {gate : CrewTask}

theorem not_gate_of_submitted (gates : project.GatesIdle) {task : CrewTask}
    (found : project.findTask taskId = some task) (isSubmitted : task.status = .submitted) :
    task.isGate = false := by
  cases isGate : task.isGate with
  | false => rfl
  | true =>
    have idle := (gates task (findTask_mem found) isGate).2
    rw [isSubmitted] at idle
    exact absurd idle (by decide)

theorem assignTask_progress {memberId : MemberId} {previous : Option MemberId}
    (call : LifecycleCall) (succeeded : project.assignTask taskId memberId = .ok (previous, after)) :
    List.Forall₂ (Progress project call) project.tasks after.tasks := by
  obtain ⟨found, isFound, notGate, isStatus, _, isAfter⟩ := assignTask_ok succeeded
  rw [isAfter]
  refine setTask_forall₂ (Progress.refl project call) ?_
  intro task isTask
  rw [isFound] at isTask
  cases isTask
  refine { Progress.refl project call found with
    staysDone := ?_, completes := ?_, starts := ?_, idle := ?_ }
  · intro isDone
    rw [isDone] at isStatus
    exact absurd isStatus (by decide)
  · intro notDone isDone
    change (if found.status = .todo then TaskStatus.assigned else found.status) = .done at isDone
    by_cases isTodo : found.status = .todo
    · rw [if_pos isTodo] at isDone
      cases isDone
    · rw [if_neg isTodo] at isDone
      exact absurd isDone notDone
  · intro _ isStarted
    change (if found.status = .todo then TaskStatus.assigned else found.status) ∈ started
      at isStarted
    by_cases isTodo : found.status = .todo
    · rw [if_pos isTodo] at isStarted
      exact absurd isStarted (by decide)
    · rw [if_neg isTodo] at isStarted
      exact Or.inl isStarted
  · intro _ isGate
    exact absurd (isGate.symm.trans notGate) Bool.noConfusion

theorem startTask_progress (call : LifecycleCall) (succeeded : project.startTask taskId = .ok after) :
    List.Forall₂ (Progress project call) project.tasks after.tasks := by
  obtain ⟨found, isFound, notGate, startable, isAfter⟩ := startTask_ok succeeded
  rw [isAfter]
  refine setTask_forall₂ (Progress.refl project call) ?_
  intro task isTask
  rw [isFound] at isTask
  cases isTask
  refine { Progress.refl project call found with
    staysDone := ?_, completes := ?_, starts := ?_, idle := ?_ }
  · intro isDone
    rcases startable with isRework | ⟨isAssigned, _⟩
    · rw [isDone] at isRework
      cases isRework
    · rw [isDone] at isAssigned
      cases isAssigned
  · intro _ isDone
    cases isDone
  · intro _ _
    rcases startable with isRework | ⟨_, satisfied⟩
    · left
      rw [isRework]
      decide
    · exact Or.inr satisfied
  · intro _ isGate
    exact absurd (isGate.symm.trans notGate) Bool.noConfusion

theorem numbered_submitArtifact {artifact now : String} {status : TaskStatus} {task : CrewTask}
    (isNumbered : Numbered task) : Numbered (submitArtifact artifact now status task) := by
  unfold Numbered submitArtifact at *
  rw [List.map_append, isNumbered, List.length_append, List.length_singleton, List.range'_concat]
  rw [Nat.one_mul, Nat.add_comm 1]
  rfl

theorem submitTask_progress {artifact now : String} (call : LifecycleCall)
    (succeeded : project.submitTask taskId artifact now = .ok after) :
    List.Forall₂ (Progress project call) project.tasks after.tasks := by
  obtain ⟨found, isFound, notGate, isOpen, isAfter⟩ := submitTask_ok succeeded
  rw [isAfter]
  have submitted : List.Forall₂ (Progress project call) project.tasks
      (project.setTask taskId (submitArtifact artifact now
        (if project.hasDownstreamGate found then .submitted else .done))).tasks := by
    refine setTask_forall₂ (Progress.refl project call) ?_
    intro task isTask
    rw [isFound] at isTask
    cases isTask
    refine { Progress.refl project call found with
      staysDone := ?_, versions := List.prefix_append _ _, completes := ?_, starts := ?_
      numbered := numbered_submitArtifact, idle := ?_ }
    · intro isDone
      rw [isDone] at isOpen
      exact absurd isOpen (by decide)
    · intro _ isDone
      refine ⟨fun isGate => absurd (isGate.symm.trans notGate) Bool.noConfusion, ?_⟩
      intro _ reviewed
      change (if project.hasDownstreamGate found then TaskStatus.submitted else .done) = .done
        at isDone
      rw [if_pos reviewed] at isDone
      cases isDone
    · intro _ _
      left
      rcases List.mem_cons.1 isOpen with isRunning | isLater
      · rw [isRunning]
        decide
      · rw [List.mem_singleton.1 isLater]
        decide
    · intro _ isGate
      exact absurd (isGate.symm.trans notGate) Bool.noConfusion
  exact Progress.compose submitted (recomputeReadiness_forall₂ Progress.ready)

theorem approveReviewed_progress (comment : Option String) (gates : project.GatesIdle)
    (reviewable : Reviewable project gateTaskId gate) :
    List.Forall₂ (Progress project (.reviewTask gateTaskId true comment)) project.tasks
      (project.setReviewed gate (fun task => { task with status := .done })).tasks := by
  unfold setReviewed
  cases reviews : gate.reviewsTaskId with
  | none => exact List.forall₂_same.2 (fun task _ => Progress.refl project _ task)
  | some reviewedId =>
    refine setTask_forall₂ (Progress.refl project _) ?_
    intro reviewed isReviewed
    obtain ⟨other, isOther, isSubmitted⟩ := reviewable.submitted reviewedId reviews
    rw [isReviewed] at isOther
    cases isOther
    have notGate := not_gate_of_submitted gates isReviewed isSubmitted
    refine { Progress.refl project (.reviewTask gateTaskId true comment) reviewed with
      staysDone := fun _ => rfl, completes := ?_, starts := ?_, idle := ?_ }
    · intro _ _
      refine ⟨fun isGate => absurd (isGate.symm.trans notGate) Bool.noConfusion, ?_⟩
      intro _ _
      refine ⟨gate, findTask_mem reviewable.found, reviewable.isGate, ?_, ?_, comment, ?_⟩
      · rw [reviews, findTask_id isReviewed]
      · exact upstreamReady_of_satisfied reviewable.isGate reviewable.satisfied
      · rw [findTask_id reviewable.found]
    · intro _ _
      left
      rw [isSubmitted]
      decide
    · intro _ isGate
      exact absurd (isGate.symm.trans notGate) Bool.noConfusion

theorem approve_progress (comment : Option String) (gates : project.GatesIdle)
    (reviewable : Reviewable project gateTaskId gate) :
    List.Forall₂ (Progress project (.reviewTask gateTaskId true comment)) project.tasks
      (project.approve gateTaskId gate comment).tasks := by
  have reviewed := approveReviewed_progress comment gates reviewable
  refine Progress.compose (Progress.compose reviewed ?_) (recomputeReadiness_forall₂ Progress.ready)
  refine setTask_forall₂ (Progress.refl project _) ?_
  intro found isFound
  obtain ⟨other, isOther, progress⟩ :=
    findTask_forall₂ (fun _ _ progress => progress.sameId) reviewed isFound
  rw [reviewable.found] at isOther
  cases isOther
  refine { Progress.refl project (.reviewTask gateTaskId true comment) found with
    staysDone := fun _ => rfl, completes := ?_, starts := ?_, idle := ?_ }
  · intro _ _
    have isGate : found.isGate = true := progress.sameKind.trans reviewable.isGate
    refine ⟨fun _ => ⟨?_, comment, ?_⟩, fun notGate => absurd (isGate.symm.trans notGate)
      Bool.noConfusion⟩
    · refine upstreamReady_of_satisfied isGate ?_
      exact progress.depsSatisfied_eq.trans reviewable.satisfied
    · rw [findTask_id isFound]
  · intro notGate _
    have isGate : found.isGate = true := progress.sameKind.trans reviewable.isGate
    exact absurd (isGate.symm.trans notGate) Bool.noConfusion
  · intro isIdle isGate
    refine ⟨(isIdle isGate).1, ?_⟩
    change TaskStatus.done ∈ [TaskStatus.todo, .blocked, .done]
    decide

theorem rejectGate_progress (call : LifecycleCall) (comment : Option String)
    (reviewable : Reviewable project gateTaskId gate) :
    List.Forall₂ (fun task task' => Progress project call task task' ∧
        (task' = task ∨ task.isGate = true)) project.tasks
      (project.setTask gateTaskId (fun task =>
        { task with status := .blocked, reviewComment := comment })).tasks := by
  refine setTask_forall₂ (fun task => ⟨Progress.refl project call task, Or.inl rfl⟩) ?_
  intro found isFound
  rw [reviewable.found] at isFound
  cases isFound
  refine ⟨?_, Or.inr reviewable.isGate⟩
  refine { Progress.refl project call gate with
    staysDone := fun isDone => absurd isDone reviewable.notDone, completes := ?_, starts := ?_
    idle := ?_ }
  · intro _ isDone
    cases isDone
  · intro notGate _
    exact absurd (reviewable.isGate.symm.trans notGate) Bool.noConfusion
  · intro isIdle isGate
    refine ⟨(isIdle isGate).1, ?_⟩
    change TaskStatus.blocked ∈ [TaskStatus.todo, .blocked, .done]
    decide

theorem reject_progress (call : LifecycleCall) (comment : Option String) (gates : project.GatesIdle)
    (reviewable : Reviewable project gateTaskId gate) :
    List.Forall₂ (Progress project call) project.tasks
      (project.reject gateTaskId gate comment).tasks := by
  have rejected := rejectGate_progress call comment reviewable
  refine Progress.compose (rejected.imp (fun _ _ progress => progress.1)) ?_
  unfold reject setReviewed
  cases reviews : gate.reviewsTaskId with
  | none => exact List.forall₂_same.2 (fun task _ => Progress.refl project call task)
  | some reviewedId =>
    refine setTask_forall₂ (Progress.refl project call) ?_
    intro found isFound
    obtain ⟨reviewed, isReviewed, isSubmitted⟩ := reviewable.submitted reviewedId reviews
    obtain ⟨other, isOther, progress, kept⟩ :=
      findTask_forall₂ (fun _ _ alike => alike.1.sameId) rejected isFound
    rw [isReviewed] at isOther
    cases isOther
    have notGate := not_gate_of_submitted gates isReviewed isSubmitted
    rcases kept with rfl | isGate
    · refine { Progress.refl project call found with
        staysDone := ?_, completes := ?_, starts := ?_, idle := ?_ }
      · intro isDone
        rw [isSubmitted] at isDone
        cases isDone
      · intro _ isDone
        cases isDone
      · intro _ _
        left
        rw [isSubmitted]
        decide
      · intro _ isGate
        exact absurd (isGate.symm.trans notGate) Bool.noConfusion
    · exact absurd (isGate.symm.trans notGate) Bool.noConfusion

end CrewProject

theorem LifecycleStep.progress {before after : CrewProject} {call : LifecycleCall}
    (gates : before.GatesIdle) (step : LifecycleStep before call after) :
    List.Forall₂ (Progress before call) before.tasks after.tasks := by
  rcases step with succeeded | ⟨rfl, _⟩
  · cases call with
    | assignTask taskId memberId =>
      change (before.assignTask taskId memberId).map Prod.snd = .ok after at succeeded
      cases answered : before.assignTask taskId memberId with
      | error error =>
        rw [answered] at succeeded
        cases succeeded
      | ok answer =>
        rw [answered] at succeeded
        cases succeeded
        exact CrewProject.assignTask_progress _ answered
    | startTask taskId => exact CrewProject.startTask_progress _ succeeded
    | submitTask taskId artifact now => exact CrewProject.submitTask_progress _ succeeded
    | reviewTask gateTaskId approved comment =>
      obtain ⟨gate, reviewable, rfl⟩ := CrewProject.reviewTask_ok succeeded
      cases approved with
      | true => exact CrewProject.approve_progress comment gates reviewable
      | false => exact CrewProject.reject_progress _ comment gates reviewable
    | recomputeReadiness =>
      cases succeeded
      exact CrewProject.recomputeReadiness_forall₂ Progress.ready
  · exact List.forall₂_same.2 (fun task _ => Progress.refl _ call task)

/-- Work that has begun has its dependencies done, gates are idle and versions
are numbered. -/
structure WorkGated (project : CrewProject) : Prop where
  gates : project.GatesIdle
  numbered : ∀ task ∈ project.tasks, Numbered task
  dependencies : ∀ task ∈ project.tasks, task.isGate = false → task.status ∈ started →
    DependenciesDone project task

variable {projectId : ProjectId}

theorem instantiateTask_ok {keyToId : String → Option TaskId} {spec : SopTaskSpec} {task : CrewTask}
    (succeeded : instantiateTask projectId keyToId spec = .ok task) :
    lookupKey keyToId spec.key = .ok task.id ∧
      spec.dependsOn.mapM (lookupKey keyToId) = .ok task.dependsOn ∧
      task.isGate = spec.isGate ∧
      (if truthy spec.reviews then (lookupKey keyToId (spec.reviews.getD "")).map some
        else .ok none) = .ok task.reviewsTaskId ∧
      task.status = (if task.dependsOn = [] then .todo else .blocked) ∧
      task.assigneeMemberId = none ∧ task.artifactVersions = [] := by
  unfold instantiateTask at succeeded
  obtain ⟨id, isId, succeeded⟩ := bind_ok succeeded
  obtain ⟨dependsOn, areDependencies, succeeded⟩ := bind_ok succeeded
  cases isReviewing : truthy spec.reviews with
  | false =>
    rw [isReviewing] at succeeded
    cases succeeded
    exact ⟨isId, areDependencies, rfl, rfl, rfl, rfl, rfl⟩
  | true =>
    rw [isReviewing] at succeeded
    obtain ⟨reviewsTaskId, isReviewed, succeeded⟩ := bind_ok succeeded
    cases succeeded
    exact ⟨isId, areDependencies, rfl, isReviewed, rfl, rfl, rfl⟩

theorem instantiateProject_tasks {workspaceId : String} {ownerUserId : MemberId} {goalText : String}
    {template : SopTemplate} {taskIds : List TaskId} {project : CrewProject}
    (instantiated : instantiateProject projectId workspaceId ownerUserId goalText template taskIds =
      .ok project) :
    List.Forall₂ (fun spec task =>
      instantiateTask projectId (keyToId template taskIds) spec = .ok task)
      template.tasks project.tasks := by
  unfold instantiateProject at instantiated
  obtain ⟨tasks, areTasks, instantiated⟩ := bind_ok instantiated
  cases instantiated
  exact mapM_ok areTasks

theorem status_of_instantiated {task : CrewTask}
    (isStatus : task.status = (if task.dependsOn = [] then .todo else .blocked)) :
    task.status = .todo ∨ task.status = .blocked := by
  rw [isStatus]
  split
  · exact Or.inl rfl
  · exact Or.inr rfl

theorem instantiateProject_gated {workspaceId : String} {ownerUserId : MemberId} {goalText : String}
    {template : SopTemplate} {taskIds : List TaskId} {project : CrewProject}
    (instantiated : instantiateProject projectId workspaceId ownerUserId goalText template taskIds =
      .ok project) : WorkGated project := by
  have fresh : ∀ task ∈ project.tasks, (task.status = .todo ∨ task.status = .blocked) ∧
      task.assigneeMemberId = none ∧ task.artifactVersions = [] := by
    intro task member
    obtain ⟨spec, _, isTask⟩ := forall₂_mem_right (instantiateProject_tasks instantiated) member
    obtain ⟨_, _, _, _, isStatus, noAssignee, noVersions⟩ := instantiateTask_ok isTask
    exact ⟨status_of_instantiated isStatus, noAssignee, noVersions⟩
  constructor
  · intro task member _
    obtain ⟨isStatus, noAssignee, _⟩ := fresh task member
    refine ⟨noAssignee, ?_⟩
    rcases isStatus with isTodo | isBlocked
    · rw [isTodo]
      decide
    · rw [isBlocked]
      decide
  · intro task member
    unfold Numbered
    rw [(fresh task member).2.2]
    rfl
  · intro task member _ isStarted
    rcases (fresh task member).1 with isTodo | isBlocked
    · rw [isTodo] at isStarted
      exact absurd isStarted (by decide)
    · rw [isBlocked] at isStarted
      exact absurd isStarted (by decide)

theorem WorkGated.step {before after : CrewProject} {call : LifecycleCall}
    (gated : WorkGated before) (step : LifecycleStep before call after) : WorkGated after := by
  have progress := step.progress gated.gates
  constructor
  · intro task' member
    obtain ⟨task, isTask, advanced⟩ := forall₂_mem_right progress member
    exact advanced.idle (gated.gates task isTask)
  · intro task' member
    obtain ⟨task, isTask, advanced⟩ := forall₂_mem_right progress member
    exact advanced.numbered (gated.numbered task isTask)
  · intro task' member notGate isStarted
    obtain ⟨task, isTask, advanced⟩ := forall₂_mem_right progress member
    have wasGate : task.isGate = false := advanced.sameKind.symm.trans notGate
    have dependencies : DependenciesDone before task := by
      rcases advanced.starts notGate isStarted with wasStarted | satisfied
      · exact gated.dependencies task isTask wasGate wasStarted
      · exact CrewProject.dependenciesDone_of_satisfied wasGate satisfied
    intro dependency isDependency
    rw [advanced.sameDependencies] at isDependency
    refine CrewProject.statusById_done (progress.imp ?_) (dependencies dependency isDependency)
    intro other other' alike
    exact ⟨alike.sameId.symm, alike.staysDone⟩

/-- In every run from a new project, work that has begun has its dependencies
done, every call moves tasks only as `Advances` allows, and versions stay
numbered. -/
theorem work_passes_only_approved_gates {projectId : ProjectId} {workspaceId : String}
    {ownerUserId : MemberId} {goalText : String} {template : SopTemplate}
    {taskIds : List TaskId} {initial last : CrewProject}
    {trace : List (Move CrewProject LifecycleCall)}
    (instantiated : instantiateProject projectId workspaceId ownerUserId goalText template
      taskIds = .ok initial)
    (run : Run LifecycleStep initial trace last) :
    (∀ task ∈ last.tasks, task.isGate = false → task.status ∈ started →
      DependenciesDone last task) ∧
    (∀ move ∈ trace,
      List.Forall₂ (Advances move.before move.label) move.before.tasks move.after.tasks) ∧
    ∀ task ∈ last.tasks, Numbered task := by
  have start := instantiateProject_gated instantiated
  have gated : WorkGated last := run.invariant WorkGated (fun _ _ _ step held => held.step step) start
  refine ⟨gated.dependencies, ?_, gated.numbered⟩
  intro move member
  obtain ⟨early, late, rfl⟩ := List.append_of_mem member
  obtain ⟨reached, step, _⟩ := run.around
  have held : WorkGated move.before :=
    reached.invariant WorkGated (fun _ _ _ step held => held.step step) start
  exact (step.progress held.gates).imp (fun _ _ progress => progress.toAdvances)

def reviewedGateTemplate : SopTemplate where
  id := "release"
  tasks := [
    { key := "draft", title := "Draft", roleRequired := "writer", dependsOn := []
      isGate := false, reviews := none, acceptanceCriteria := none },
    { key := "check", title := "Check", roleRequired := "editor", dependsOn := ["draft"]
      isGate := true, reviews := some "draft", acceptanceCriteria := none },
    { key := "audit", title := "Audit", roleRequired := "owner", dependsOn := ["check"]
      isGate := true, reviews := some "check", acceptanceCriteria := none }]

def reviewedGateProject : CrewProject :=
  (instantiateProject "proj_1" "ws" "owner" "release" reviewedGateTemplate
    ["draft", "check", "audit"]).toOption.getD ⟨"", "", "", "", "", [], []⟩

theorem reviewedGateProject_instantiated :
    instantiateProject "proj_1" "ws" "owner" "release" reviewedGateTemplate
      ["draft", "check", "audit"] = .ok reviewedGateProject := rfl

def submitDraft : List LifecycleCall :=
  [.assignTask "draft" "ann", .startTask "draft", .submitTask "draft" "text" "now"]

theorem work_passes_only_approved_gates_after_submission :
    (∀ task ∈ (reviewedGateProject.performAll submitDraft).tasks, task.isGate = false →
      task.status ∈ started → DependenciesDone (reviewedGateProject.performAll submitDraft) task) ∧
    ∀ task ∈ (reviewedGateProject.performAll submitDraft).tasks, Numbered task := by
  obtain ⟨_, run⟩ := reviewedGateProject.run_performAll submitDraft
  have safe := work_passes_only_approved_gates reviewedGateProject_instantiated run
  exact ⟨safe.1, safe.2.2⟩

/-- The gate is done when it is approved itself, whatever gate reviews it. -/
theorem reviewed_gate_is_done_by_its_own_approval :
    ¬ ∀ (template : SopTemplate) (taskIds : List TaskId) (initial last : CrewProject)
      (trace : List (Move CrewProject LifecycleCall)),
      instantiateProject "proj_1" "ws" "owner" "release" template taskIds = .ok initial →
      Run LifecycleStep initial trace last →
      ∀ move ∈ trace, List.Forall₂ (fun task task' => task.status ≠ .done →
        task'.status = .done → move.before.hasDownstreamGate task = true →
        ∃ gate ∈ move.before.tasks, gate.isGate = true ∧ gate.reviewsTaskId = some task.id ∧
          ∃ comment, move.label = .reviewTask gate.id true comment)
        move.before.tasks move.after.tasks := by
  intro claimed
  obtain ⟨trace, run⟩ := reviewedGateProject.run_performAll submitDraft
  have approval := (reviewedGateProject.performAll submitDraft).step_performOne
    (.reviewTask "check" true none)
  have moved := claimed reviewedGateTemplate _ _ _ _ reviewedGateProject_instantiated
    (run.append (.single approval)) _ (List.mem_append_right _ (List.mem_singleton.2 rfl))
  have gateMoved := (List.forall₂_iff_get.1 moved).2 1 (by decide +kernel) (by decide +kernel)
  obtain ⟨gate, member, _, reviews, comment, sameCall⟩ :=
    gateMoved (by decide +kernel) (by decide +kernel) (by decide +kernel)
  have otherGate : ∀ gate ∈ (reviewedGateProject.performAll submitDraft).tasks,
      gate.reviewsTaskId = some "check" → gate.id ≠ "check" := by
    decide +kernel
  have sameId : "check" = gate.id := by
    injection sameCall
  exact otherGate gate member reviews sameId.symm

end AnnaAgent.Crew
