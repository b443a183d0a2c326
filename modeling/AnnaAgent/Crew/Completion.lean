/-
Templates whose projects can always be finished.

A gate can be approved while the task it reviews is submitted, and the approval
makes both done.  A task that is no gate waits for the approval of its upstream,
so it waits for the gates over it as well.  Where this waiting has no cycle, a
task is reviewed by one gate and no gate is reviewed, the tasks that are behind
always include one that can move.
-/

import AnnaAgent.Foundation.Descent
import AnnaAgent.Crew.Readiness

namespace AnnaAgent.Crew

open Foundation TaskStatus

def SopTaskSpec.Reviews (gate : SopTaskSpec) (key : String) : Prop :=
  gate.isGate = true ∧ key ≠ "" ∧ gate.reviews = some key

namespace SopTemplate

def DependsOn (template : SopTemplate) (key dependency : String) : Prop :=
  ∃ spec ∈ template.tasks, spec.key = key ∧ dependency ∈ spec.dependsOn

/-- A task waits for its dependencies.  One that is no gate also waits for the
gates over them. -/
inductive Waits (template : SopTemplate) : String → String → Prop
  | dependency {spec : SopTaskSpec} {key : String} (member : spec ∈ template.tasks)
      (depends : key ∈ spec.dependsOn) : Waits template spec.key key
  | gate {spec gate : SopTaskSpec} {key : String} (member : spec ∈ template.tasks)
      (gateMember : gate ∈ template.tasks) (notGate : spec.isGate = false)
      (depends : key ∈ spec.dependsOn) (reviews : gate.Reviews key) :
      Waits template spec.key gate.key

structure Completable (template : SopTemplate) : Prop where
  distinct : (template.tasks.map SopTaskSpec.key).Nodup
  acyclic : Acyclic template.Waits
  depend : ∀ gate ∈ template.tasks, ∀ key, gate.Reviews key → key ∈ gate.dependsOn
  single : ∀ gate ∈ template.tasks, ∀ other ∈ template.tasks, ∀ key,
    gate.Reviews key → other.Reviews key → gate.key = other.key
  work : ∀ gate ∈ template.tasks, ∀ spec ∈ template.tasks, gate.Reviews spec.key →
    spec.isGate = false

end SopTemplate

/-- A gate over the task of an identity. -/
def CrewTask.Reviews (gate : CrewTask) (taskId : TaskId) : Prop :=
  gate.isGate = true ∧ gate.reviewsTaskId = some taskId

variable {comment : Option String} {assign : CrewTask → CrewTask}

namespace CrewProject

inductive Waits (project : CrewProject) : TaskId → TaskId → Prop
  | dependency {task : CrewTask} {taskId : TaskId} (member : task ∈ project.tasks)
      (depends : taskId ∈ task.dependsOn) : Waits project task.id taskId
  | gate {task gate : CrewTask} {taskId : TaskId} (member : task ∈ project.tasks)
      (gateMember : gate ∈ project.tasks) (notGate : task.isGate = false)
      (depends : taskId ∈ task.dependsOn) (reviews : gate.Reviews taskId) :
      Waits project task.id gate.id

structure Completable (project : CrewProject) : Prop where
  distinct : project.DistinctIds
  known : ∀ task ∈ project.tasks, ∀ taskId ∈ task.dependsOn,
    ∃ upstream ∈ project.tasks, upstream.id = taskId
  acyclic : Acyclic project.Waits
  depend : ∀ gate ∈ project.tasks, ∀ taskId, gate.Reviews taskId → taskId ∈ gate.dependsOn
  single : ∀ gate ∈ project.tasks, ∀ other ∈ project.tasks, ∀ taskId,
    gate.Reviews taskId → other.Reviews taskId → gate.id = other.id
  work : ∀ gate ∈ project.tasks, ∀ task ∈ project.tasks, gate.Reviews task.id → task.isGate = false

/-- A gate that is done leaves its task done. -/
def ReviewedDone (project : CrewProject) : Prop :=
  ∀ gate ∈ project.tasks, ∀ taskId, gate.Reviews taskId → gate.status = .done →
    project.statusById taskId = some .done

/-- Of the gates over one task at most one is done. -/
def OneApproval (project : CrewProject) : Prop :=
  ∀ gate ∈ project.tasks, ∀ other ∈ project.tasks, ∀ taskId, gate.Reviews taskId →
    other.Reviews taskId → gate.status = .done → other.status = .done → gate.id = other.id

structure Approved (project : CrewProject) : Prop where
  gates : project.GatesIdle
  distinct : project.DistinctIds
  reviewed : project.ReviewedDone
  single : project.OneApproval

/-- The work of a project is on its way: nothing is in a status that no
transition leaves, submitted work has a gate over it, and work with a gate is
done only when the gate is. -/
structure OnItsWay (project : CrewProject) : Prop extends Approved project where
  moving : ∀ task ∈ project.tasks, task.status ≠ .inReview
  awaited : ∀ task ∈ project.tasks, task.status = .submitted → project.hasDownstreamGate task = true
  released : ∀ gate ∈ project.tasks, ∀ task ∈ project.tasks, gate.Reviews task.id →
    task.status = .done → gate.status = .done

variable {project : CrewProject}

theorem setTask_tasks (distinct : project.DistinctIds) (taskId : TaskId)
    (assign : CrewTask → CrewTask) : (project.setTask taskId assign).tasks =
      project.tasks.map (fun task => if task.id = taskId then assign task else task) :=
  updateFirst_of_distinct distinct taskId assign

variable {R : CrewTask → CrewTask → Prop}

theorem DistinctIds.related {other : CrewProject} (distinct : project.DistinctIds)
    (sameId : ∀ task task', R task task' → task'.id = task.id)
    (related : List.Forall₂ R project.tasks other.tasks) : other.DistinctIds := by
  have distinctIds : (project.tasks.map CrewTask.id).Nodup := distinct
  refine distinct_of_related ?_ related distinctIds
  intro task task' next next' alike alike' same
  rw [← sameId _ _ alike, ← sameId _ _ alike', same]

theorem DistinctIds.setTask (distinct : project.DistinctIds) (taskId : TaskId)
    (sameId : ∀ task, (assign task).id = task.id) :
    (project.setTask taskId assign).DistinctIds :=
  distinct.related (R := fun task task' => task'.id = task.id) (fun _ _ same => same)
    (setTask_forall₂ (R := fun task task' => task'.id = task.id) (fun _ => rfl)
      (fun task _ => sameId task))

theorem mem_setTask {taskId : TaskId} {task : CrewTask} (assign : CrewTask → CrewTask)
    (distinct : project.DistinctIds) (found : project.findTask taskId = some task) :
    assign task ∈ (project.setTask taskId assign).tasks := by
  rw [setTask_tasks distinct]
  refine List.mem_map.2 ⟨task, findTask_mem found, ?_⟩
  exact if_pos (findTask_id found)

theorem statusById_setTask {taskId : TaskId} {task : CrewTask} (assign : CrewTask → CrewTask)
    (distinct : project.DistinctIds) (sameId : ∀ task, (assign task).id = task.id)
    (found : project.findTask taskId = some task) :
    (project.setTask taskId assign).statusById taskId = some (assign task).status := by
  have isStatus := statusById_of_mem (distinct.setTask taskId sameId)
    (mem_setTask assign distinct found)
  rw [sameId, findTask_id found] at isStatus
  exact isStatus

theorem hasDownstreamGate_iff {task : CrewTask} : project.hasDownstreamGate task = true ↔
    ∃ gate ∈ project.tasks, gate.Reviews task.id := by
  unfold hasDownstreamGate CrewTask.Reviews
  rw [List.any_eq_true]
  refine exists_congr (fun gate => and_congr_right (fun _ => ?_))
  rw [Bool.and_eq_true, decide_eq_true_iff]

variable {gate : CrewTask} {gateTaskId : TaskId}

theorem setReviewed_forall₂ (refl : ∀ task, R task task) (assigned : ∀ task, R task (assign task)) :
    List.Forall₂ R project.tasks (project.setReviewed gate assign).tasks := by
  unfold setReviewed
  cases gate.reviewsTaskId with
  | none => exact List.forall₂_same.2 (fun task _ => refl task)
  | some reviewedId => exact setTask_forall₂ refl (fun task _ => assigned task)

theorem approve_forall₂ (refl : ∀ task, R task task)
    (trans : ∀ task task' task'', R task task' → R task' task'' → R task task'')
    (completed : ∀ task comment, R task { task with status := .done, reviewComment := comment })
    (woken : ∀ other task, R task (ready other task)) :
    List.Forall₂ R project.tasks (project.approve gateTaskId gate comment).tasks := by
  have compose : ∀ {first middle last : List CrewTask}, List.Forall₂ R first middle →
      List.Forall₂ R middle last → List.Forall₂ R first last := by
    intro first middle last early late
    refine (forall₂_comp early late).imp ?_
    intro task task'' between
    obtain ⟨task', toBetween, fromBetween⟩ := between
    exact trans task task' task'' toBetween fromBetween
  have reviewed : List.Forall₂ R project.tasks
      (project.setReviewed gate (fun task => { task with status := .done })).tasks :=
    setReviewed_forall₂ refl (fun task => completed task task.reviewComment)
  refine compose (compose reviewed ?_) (recomputeReadiness_forall₂ (woken _))
  exact setTask_forall₂ refl (fun task _ => completed task comment)

theorem ready_done {task : CrewTask} (other : CrewProject) (isDone : task.status = .done) :
    (other.ready task).status = .done := by
  unfold ready
  split
  · rename_i wakes
    rw [isDone] at wakes
    cases wakes.1
  · exact isDone

theorem recompute_statusById_done {taskId : TaskId}
    (isDone : project.statusById taskId = some .done) :
    project.recomputeReadiness.statusById taskId = some .done :=
  statusById_done (recomputeReadiness_forall₂
    (fun task => ⟨(ready_id task).symm, ready_done project⟩)) isDone

theorem approve_gate_done (comment : Option String) (distinct : project.DistinctIds)
    (found : project.findTask gateTaskId = some gate) :
    (project.approve gateTaskId gate comment).statusById gateTaskId = some .done := by
  have reviewed : List.Forall₂ (fun task task' : CrewTask => task'.id = task.id) project.tasks
      (project.setReviewed gate (fun task => { task with status := .done })).tasks :=
    setReviewed_forall₂ (R := fun task task' : CrewTask => task'.id = task.id) (fun _ => rfl)
      (fun _ => rfl)
  have distinctReviewed := distinct.related (fun _ _ same => same) reviewed
  obtain ⟨gate', isGate', sameId⟩ := forall₂_mem_left reviewed (findTask_mem found)
  have found' := findTask_of_mem distinctReviewed isGate'
  rw [sameId, findTask_id found] at found'
  exact recompute_statusById_done (statusById_setTask
    (fun task => { task with status := .done, reviewComment := comment }) distinctReviewed (fun _ => rfl) found')

theorem approve_reviewed_done {reviewedId : TaskId} {reviewed : CrewTask}
    (distinct : project.DistinctIds) (reviews : gate.reviewsTaskId = some reviewedId)
    (found : project.findTask reviewedId = some reviewed) :
    (project.approve gateTaskId gate comment).statusById reviewedId = some .done := by
  have isReviewed : (project.setReviewed gate (fun task =>
      { task with status := .done })).statusById reviewedId = some .done := by
    unfold setReviewed
    rw [reviews]
    exact statusById_setTask (fun task => { task with status := .done }) distinct
      (fun _ => rfl) found
  refine recompute_statusById_done (statusById_done ?_ isReviewed)
  exact setTask_forall₂ (fun _ => ⟨rfl, fun isDone => isDone⟩) (fun _ _ => ⟨rfl, fun _ => rfl⟩)

end CrewProject

variable {gate : CrewTask}

theorem approval_of_progress {before after : CrewProject} {call : LifecycleCall} {gate' : CrewTask}
    (distinct : before.DistinctIds) (succeeded : before.perform call = .ok after)
    (member : gate ∈ before.tasks) (isGate : gate.isGate = true)
    (progress : Progress before call gate gate') (wasOpen : gate.status ≠ .done)
    (isDone : gate'.status = .done) :
    (∃ comment, call = .reviewTask gate.id true comment) ∧ before.Reviewable gate.id gate ∧
      ∀ reviewedId, gate.Reviews reviewedId → after.statusById reviewedId = some .done := by
  obtain ⟨_, comment, rfl⟩ := (progress.completes wasOpen isDone).1 isGate
  obtain ⟨found, reviewable, rfl⟩ := CrewProject.reviewTask_ok succeeded
  have sameGate := (CrewProject.findTask_of_mem distinct member).symm.trans reviewable.found
  cases sameGate
  refine ⟨⟨comment, rfl⟩, reviewable, ?_⟩
  intro reviewedId reviews
  obtain ⟨reviewed, isReviewed, _⟩ := reviewable.submitted reviewedId reviews.2
  exact CrewProject.approve_reviewed_done distinct reviews.2 isReviewed

theorem CrewProject.Approved.step {before after : CrewProject} {call : LifecycleCall}
    (approved : before.Approved) (step : LifecycleStep before call after) : after.Approved := by
  have progress := step.progress approved.gates
  rcases step with succeeded | ⟨rfl, _⟩
  · have stays : ∀ taskId, before.statusById taskId = some .done →
        after.statusById taskId = some .done := by
      intro taskId isDone
      exact CrewProject.statusById_done (progress.imp
        (fun _ _ advanced => ⟨advanced.sameId.symm, advanced.staysDone⟩)) isDone
    refine ⟨?_, approved.distinct.related (fun _ _ advanced => advanced.sameId) progress, ?_, ?_⟩
    · intro task' member
      obtain ⟨task, isTask, advanced⟩ := forall₂_mem_right progress member
      exact advanced.idle (approved.gates task isTask)
    · intro gate' member taskId reviews isDone
      obtain ⟨gate, isTask, advanced⟩ := forall₂_mem_right progress member
      have reviewed : gate.Reviews taskId :=
        ⟨advanced.sameKind.symm.trans reviews.1, advanced.sameReviewed.symm.trans reviews.2⟩
      by_cases wasDone : gate.status = .done
      · exact stays taskId (approved.reviewed gate isTask taskId reviewed wasDone)
      · exact (approval_of_progress approved.distinct succeeded isTask reviewed.1 advanced wasDone
          isDone).2.2 taskId reviewed
    · intro gate' member other' otherMember taskId reviews otherReviews isDone otherDone
      obtain ⟨gate, isTask, advanced⟩ := forall₂_mem_right progress member
      obtain ⟨other, isOther, otherAdvanced⟩ := forall₂_mem_right progress otherMember
      have reviewed : gate.Reviews taskId :=
        ⟨advanced.sameKind.symm.trans reviews.1, advanced.sameReviewed.symm.trans reviews.2⟩
      have otherReviewed : other.Reviews taskId :=
        ⟨otherAdvanced.sameKind.symm.trans otherReviews.1,
          otherAdvanced.sameReviewed.symm.trans otherReviews.2⟩
      rw [advanced.sameId, otherAdvanced.sameId]
      have apart : ∀ first ∈ before.tasks, ∀ second ∈ before.tasks, first.Reviews taskId →
          second.Reviews taskId → first.status = .done → ¬ before.Reviewable second.id second := by
        intro first isFirst second _ firstReviews secondReviews firstDone reviewable
        obtain ⟨reviewedTask, isReviewed, isSubmitted⟩ :=
          reviewable.submitted taskId secondReviews.2
        have isStatus := CrewProject.statusById_of_find approved.distinct isReviewed
        rw [approved.reviewed first isFirst taskId firstReviews firstDone, isSubmitted] at isStatus
        cases isStatus
      by_cases wasDone : gate.status = .done
      · by_cases otherWasDone : other.status = .done
        · exact approved.single gate isTask other isOther taskId reviewed otherReviewed wasDone
            otherWasDone
        · have reviewable := (approval_of_progress approved.distinct succeeded isOther
            otherReviewed.1 otherAdvanced otherWasDone otherDone).2.1
          exact absurd reviewable (apart gate isTask other isOther reviewed otherReviewed wasDone)
      · obtain ⟨⟨comment, isCall⟩, reviewable, _⟩ := approval_of_progress approved.distinct
          succeeded isTask reviewed.1 advanced wasDone isDone
        by_cases otherWasDone : other.status = .done
        · exact absurd reviewable
            (apart other isOther gate isTask otherReviewed reviewed otherWasDone)
        · obtain ⟨⟨comment', isCall'⟩, _⟩ := approval_of_progress approved.distinct succeeded
            isOther otherReviewed.1 otherAdvanced otherWasDone otherDone
          rw [isCall] at isCall'
          injection isCall'
  · exact approved

/-- A call leaves the status of a task or gives it one that is not left stuck. -/
structure Lands (before : CrewProject) (task task' : CrewTask) : Prop where
  sameId : task'.id = task.id
  lands : task'.status = task.status ∨ task'.status ≠ .inReview ∧
    (task'.status = .submitted → before.hasDownstreamGate task = true)

namespace Lands

variable {before : CrewProject} {task task' task'' : CrewTask}

theorem refl (before : CrewProject) (task : CrewTask) : Lands before task task :=
  ⟨rfl, Or.inl rfl⟩

theorem of_open (sameId : task'.id = task.id) (notReview : task'.status ≠ .inReview)
    (notSubmitted : task'.status ≠ .submitted) : Lands before task task' :=
  ⟨sameId, Or.inr ⟨notReview, fun isSubmitted => absurd isSubmitted notSubmitted⟩⟩

theorem trans (first : Lands before task task') (second : Lands before task' task'') :
    Lands before task task'' := by
  refine ⟨second.sameId.trans first.sameId, ?_⟩
  rcases second.lands with same | ⟨notReview, awaits⟩
  · rw [same]
    exact first.lands
  · refine Or.inr ⟨notReview, ?_⟩
    intro isSubmitted
    obtain ⟨gate, member, reviews⟩ := CrewProject.hasDownstreamGate_iff.1 (awaits isSubmitted)
    rw [first.sameId] at reviews
    exact CrewProject.hasDownstreamGate_iff.2 ⟨gate, member, reviews⟩

theorem compose {first middle last : List CrewTask}
    (early : List.Forall₂ (Lands before) first middle)
    (late : List.Forall₂ (Lands before) middle last) : List.Forall₂ (Lands before) first last := by
  refine (forall₂_comp early late).imp ?_
  intro task task'' between
  obtain ⟨task', toBetween, fromBetween⟩ := between
  exact toBetween.trans fromBetween

theorem ready (other : CrewProject) (task : CrewTask) : Lands before task (other.ready task) := by
  unfold CrewProject.ready
  split
  · rcases CrewProject.readyStatus_cases task with isReady | isReady
    · refine of_open rfl ?_ ?_
      · change CrewProject.readyStatus task ≠ _
        rw [isReady]
        decide
      · change CrewProject.readyStatus task ≠ _
        rw [isReady]
        decide
    · refine of_open rfl ?_ ?_
      · change CrewProject.readyStatus task ≠ _
        rw [isReady]
        decide
      · change CrewProject.readyStatus task ≠ _
        rw [isReady]
        decide
  · exact refl before task

end Lands

namespace CrewProject

variable {project after : CrewProject}

theorem assignTask_lands {taskId : TaskId} {memberId : MemberId} {previous : Option MemberId}
    (succeeded : project.assignTask taskId memberId = .ok (previous, after)) :
    List.Forall₂ (Lands project) project.tasks after.tasks := by
  obtain ⟨found, _, _, _, _, rfl⟩ := assignTask_ok succeeded
  refine setTask_forall₂ (Lands.refl project) ?_
  intro task _
  by_cases isTodo : task.status = .todo
  · have isAssigned : (if task.status = .todo then assigned else task.status) =
        .assigned := if_pos isTodo
    refine Lands.of_open rfl ?_ ?_
    · change (if task.status = .todo then assigned else task.status) ≠ _
      rw [isAssigned]
      decide
    · change (if task.status = .todo then assigned else task.status) ≠ _
      rw [isAssigned]
      decide
  · exact ⟨rfl, Or.inl (if_neg isTodo)⟩

theorem submitTask_lands {taskId : TaskId} {artifact now : String}
    (succeeded : project.submitTask taskId artifact now = .ok after) :
    List.Forall₂ (Lands project) project.tasks after.tasks := by
  obtain ⟨found, isFound, _, _, rfl⟩ := submitTask_ok succeeded
  refine Lands.compose (setTask_forall₂ (Lands.refl project) ?_)
    (recomputeReadiness_forall₂ (Lands.ready _))
  intro task isTask
  rw [isFound] at isTask
  cases isTask
  cases reviewed : project.hasDownstreamGate found with
  | true => exact ⟨rfl, Or.inr ⟨noConfusion, fun _ => reviewed⟩⟩
  | false => exact Lands.of_open rfl noConfusion noConfusion

theorem reject_lands {gateTaskId : TaskId} :
    List.Forall₂ (Lands project) project.tasks (project.reject gateTaskId gate comment).tasks := by
  have gateLands : List.Forall₂ (Lands project) project.tasks
      (project.setTask gateTaskId (fun task =>
        { task with status := .blocked, reviewComment := comment })).tasks :=
    setTask_forall₂ (Lands.refl project) (fun _ _ => Lands.of_open rfl noConfusion noConfusion)
  refine Lands.compose gateLands (setReviewed_forall₂ (Lands.refl project) ?_)
  intro task
  exact Lands.of_open rfl noConfusion noConfusion

theorem approve_lands {gateTaskId : TaskId} :
    List.Forall₂ (Lands project) project.tasks (project.approve gateTaskId gate comment).tasks :=
  approve_forall₂ (Lands.refl project) (fun _ _ _ first second => first.trans second)
    (fun _ _ => Lands.of_open rfl noConfusion noConfusion) Lands.ready

end CrewProject

theorem lands_of_perform {before after : CrewProject} {call : LifecycleCall}
    (succeeded : before.perform call = .ok after) :
    List.Forall₂ (Lands before) before.tasks after.tasks := by
  cases call with
  | assignTask taskId memberId =>
    change (before.assignTask taskId memberId).map Prod.snd = .ok after at succeeded
    cases answered : before.assignTask taskId memberId with
    | error error =>
      rw [answered] at succeeded
      cases succeeded
    | ok answer =>
      rw [answered] at succeeded
      cases succeeded
      exact CrewProject.assignTask_lands answered
  | startTask taskId =>
    obtain ⟨_, _, _, _, rfl⟩ := CrewProject.startTask_ok succeeded
    exact CrewProject.setTask_forall₂ (Lands.refl before)
      (fun _ _ => Lands.of_open rfl noConfusion noConfusion)
  | submitTask taskId artifact now => exact CrewProject.submitTask_lands succeeded
  | reviewTask gateTaskId approved comment =>
    obtain ⟨gate, _, rfl⟩ := CrewProject.reviewTask_ok succeeded
    cases approved with
    | true => exact CrewProject.approve_lands
    | false => exact CrewProject.reject_lands
  | recomputeReadiness =>
    cases succeeded
    exact CrewProject.recomputeReadiness_forall₂ (Lands.ready before)

/-! ### Steps -/

/-- A call leaves the edges and the gates of a project as they are. -/
structure SameShape (task task' : CrewTask) : Prop where
  sameId : task'.id = task.id
  sameKind : task'.isGate = task.isGate
  sameDependencies : task'.dependsOn = task.dependsOn
  sameReviewed : task'.reviewsTaskId = task.reviewsTaskId

theorem SameShape.reviews {task task' : CrewTask} (same : SameShape task task')
    {taskId : TaskId} : task'.Reviews taskId ↔ task.Reviews taskId := by
  unfold CrewTask.Reviews
  rw [same.sameKind, same.sameReviewed]

theorem Progress.sameShape {before : CrewProject} {call : LifecycleCall} {task task' : CrewTask}
    (progress : Progress before call task task') : SameShape task task' :=
  ⟨progress.sameId, progress.sameKind, progress.sameDependencies, progress.sameReviewed⟩

namespace CrewProject

variable {project other : CrewProject}

theorem Waits.of_shape (same : List.Forall₂ SameShape project.tasks other.tasks)
    {taskId awaited : TaskId} (waits : other.Waits taskId awaited) :
    project.Waits taskId awaited := by
  cases waits with
  | dependency member depends =>
    obtain ⟨task, isTask, alike⟩ := forall₂_mem_right same member
    rw [alike.sameDependencies] at depends
    rw [alike.sameId]
    exact .dependency isTask depends
  | gate member gateMember notGate depends reviews =>
    obtain ⟨task, isTask, alike⟩ := forall₂_mem_right same member
    obtain ⟨gate, isGate, gateAlike⟩ := forall₂_mem_right same gateMember
    rw [alike.sameDependencies] at depends
    rw [alike.sameKind] at notGate
    rw [alike.sameId, gateAlike.sameId]
    exact .gate isTask isGate notGate depends (gateAlike.reviews.1 reviews)

theorem Completable.of_shape (completable : project.Completable)
    (same : List.Forall₂ SameShape project.tasks other.tasks) : other.Completable := by
  refine ⟨completable.distinct.related (fun _ _ alike => alike.sameId) same, ?_, ?_, ?_, ?_, ?_⟩
  · intro task' member taskId depends
    obtain ⟨task, isTask, alike⟩ := forall₂_mem_right same member
    rw [alike.sameDependencies] at depends
    obtain ⟨upstream, isUpstream, isId⟩ := completable.known task isTask taskId depends
    obtain ⟨upstream', isUpstream', upstreamAlike⟩ := forall₂_mem_left same isUpstream
    exact ⟨upstream', isUpstream', upstreamAlike.sameId.trans isId⟩
  · intro taskId cycle
    exact completable.acyclic taskId (cycle.lift (fun other => other)
      (fun _ _ => Waits.of_shape same))
  · intro gate' member taskId reviews
    obtain ⟨gate, isGate, alike⟩ := forall₂_mem_right same member
    rw [alike.sameDependencies]
    exact completable.depend gate isGate taskId (alike.reviews.1 reviews)
  · intro gate' member other' otherMember taskId reviews otherReviews
    obtain ⟨gate, isGate, alike⟩ := forall₂_mem_right same member
    obtain ⟨next, isNext, nextAlike⟩ := forall₂_mem_right same otherMember
    rw [alike.sameId, nextAlike.sameId]
    exact completable.single gate isGate next isNext taskId (alike.reviews.1 reviews)
      (nextAlike.reviews.1 otherReviews)
  · intro gate' member task' taskMember reviews
    obtain ⟨gate, isGate, alike⟩ := forall₂_mem_right same member
    obtain ⟨task, isTask, taskAlike⟩ := forall₂_mem_right same taskMember
    rw [taskAlike.sameKind]
    rw [alike.reviews, taskAlike.sameId] at reviews
    exact completable.work gate isGate task isTask reviews

end CrewProject

theorem CrewProject.OnItsWay.step {before after : CrewProject} {call : LifecycleCall}
    (completable : before.Completable) (onItsWay : before.OnItsWay)
    (succeeded : before.perform call = .ok after) : after.OnItsWay := by
  have step : LifecycleStep before call after := Or.inl succeeded
  have progress := step.progress onItsWay.gates
  have landed := lands_of_perform succeeded
  refine ⟨onItsWay.toApproved.step step, ?_, ?_, ?_⟩
  · intro task' member isInReview
    obtain ⟨task, isTask, lands⟩ := forall₂_mem_right landed member
    rcases lands.lands with same | ⟨notReview, _⟩
    · exact onItsWay.moving task isTask (same.symm.trans isInReview)
    · exact notReview isInReview
  · intro task' member isSubmitted
    obtain ⟨task, isTask, lands⟩ := forall₂_mem_right landed member
    have awaited : before.hasDownstreamGate task = true := by
      rcases lands.lands with same | ⟨_, awaits⟩
      · exact onItsWay.awaited task isTask (same.symm.trans isSubmitted)
      · exact awaits isSubmitted
    obtain ⟨gate, isGate, reviews⟩ := CrewProject.hasDownstreamGate_iff.1 awaited
    obtain ⟨gate', isGate', advanced⟩ := forall₂_mem_left progress isGate
    refine CrewProject.hasDownstreamGate_iff.2 ⟨gate', isGate', ?_⟩
    rw [lands.sameId]
    exact advanced.sameShape.reviews.2 reviews
  · intro gate' member task' taskMember reviews isDone
    obtain ⟨gate, isGate, advanced⟩ := forall₂_mem_right progress member
    obtain ⟨task, isTask, taskAdvanced⟩ := forall₂_mem_right progress taskMember
    rw [advanced.sameShape.reviews, taskAdvanced.sameId] at reviews
    by_cases wasDone : task.status = .done
    · exact advanced.staysDone (onItsWay.released gate isGate task isTask reviews wasDone)
    · have notGate := completable.work gate isGate task isTask reviews
      obtain ⟨other, isOther, otherGate, otherReviews, _, comment, rfl⟩ :=
        (taskAdvanced.completes wasDone isDone).2 notGate
          (CrewProject.hasDownstreamGate_iff.2 ⟨gate, isGate, reviews⟩)
      have sameGate := completable.single gate isGate other isOther task.id reviews
        ⟨otherGate, otherReviews⟩
      have distinctAfter := onItsWay.distinct.related (fun _ _ each => each.sameId) progress
      obtain ⟨found, reviewable, rfl⟩ := CrewProject.reviewTask_ok succeeded
      have isStatus := CrewProject.approve_gate_done comment onItsWay.distinct reviewable.found
      rw [← sameGate] at isStatus
      have isGateStatus := CrewProject.statusById_of_mem distinctAfter member
      rw [if_pos rfl, advanced.sameId, ← sameGate] at isGateStatus
      exact Option.some.inj (isGateStatus.symm.trans isStatus)

/-- How many calls a task may still need. -/
def remaining : TaskStatus → Nat
  | .blocked => 5
  | .todo => 4
  | .assigned | .rework | .inReview => 3
  | .running => 2
  | .submitted => 1
  | .done => 0

namespace CrewProject

variable {project : CrewProject}

def distance (project : CrewProject) : Nat :=
  (project.tasks.map (fun task => remaining task.status)).sum

def AllDone (project : CrewProject) : Prop :=
  ∀ task ∈ project.tasks, task.status = .done

theorem ready_remaining (other : CrewProject) (task : CrewTask) :
    remaining (other.ready task).status ≤ remaining task.status := by
  unfold ready
  split
  · rename_i wakes
    change remaining (readyStatus task) ≤ _
    rw [wakes.1]
    rcases readyStatus_cases task with isReady | isReady
    · rw [isReady]
      decide
    · rw [isReady]
      decide
  · exact Nat.le_refl _

theorem recompute_distance : project.recomputeReadiness.distance ≤ project.distance :=
  sum_le_of_forall₂ (fun task : CrewTask => remaining task.status)
    (recomputeReadiness_forall₂ (ready_remaining project))

theorem recompute_distance_lt {task : CrewTask} (member : task ∈ project.tasks)
    (isBlocked : task.status = .blocked) (satisfied : project.depsSatisfied task = true) :
    project.recomputeReadiness.distance < project.distance := by
  refine sum_lt_of_forall₂ (fun task : CrewTask => remaining task.status)
    (fun other => other = task) ?_ ⟨task, member, rfl⟩
  refine recomputeReadiness_forall₂ (fun other => ⟨ready_remaining project other, ?_⟩)
  intro same
  have isReady : (project.ready task).status = readyStatus task := by
    unfold ready
    rw [if_pos ⟨isBlocked, satisfied⟩]
  rw [same, isReady, isBlocked]
  rcases readyStatus_cases task with isStatus | isStatus
  · rw [isStatus]
    decide
  · rw [isStatus]
    decide

variable {taskId : TaskId}

theorem setTask_distance_lt {task : CrewTask} (distinct : project.DistinctIds)
    (found : project.findTask taskId = some task)
    (lower : remaining (assign task).status < remaining task.status) :
    (project.setTask taskId assign).distance < project.distance := by
  refine sum_lt_of_forall₂ (fun task : CrewTask => remaining task.status)
    (fun other => other.id = taskId) ?_ ⟨task, findTask_mem found, findTask_id found⟩
  rw [setTask_tasks distinct, List.forall₂_map_right_iff]
  refine List.forall₂_same.2 ?_
  intro other member
  by_cases isTask : other.id = taskId
  · have same := findTask_of_mem distinct member
    rw [isTask, found] at same
    cases same
    rw [if_pos isTask]
    exact ⟨Nat.le_of_lt lower, fun _ => lower⟩
  · rw [if_neg isTask]
    exact ⟨Nat.le_refl _, fun isMoved => absurd isMoved isTask⟩

theorem satisfied_of_dependenciesDone {task : CrewTask} (done : DependenciesDone project task) :
    project.depsSatisfied task = true := by
  unfold depsSatisfied
  rw [List.all_eq_true]
  intro dependency member
  rw [done dependency member]
  exact decide_eq_true done_satisfying

theorem assignTask_todo {task : CrewTask} (memberId : MemberId)
    (found : project.findTask taskId = some task) (notGate : task.isGate = false)
    (isTodo : task.status = .todo) :
    project.perform (.assignTask taskId memberId) = .ok (project.setTask taskId (fun task =>
      { task with
        assigneeMemberId := some memberId
        status := if task.status = .todo then .assigned else task.status })) := by
  have assigned : project.assignTask taskId memberId = .ok (task.assigneeMemberId,
      project.setTask taskId (fun task =>
        { task with
          assigneeMemberId := some memberId
          status := if task.status = .todo then .assigned else task.status })) := by
    unfold assignTask
    refine (bind_of_ok _ (getTask_of_find found)).trans ?_
    rw [notGate, if_neg Bool.false_ne_true, isTodo, if_neg (by decide)]
    rfl
  exact congrArg (Except.map Prod.snd) assigned

theorem startTask_startable {task : CrewTask} (found : project.findTask taskId = some task)
    (notGate : task.isGate = false) (startable : task.status = .rework ∨ task.status = .assigned)
    (satisfied : project.depsSatisfied task = true) :
    project.perform (.startTask taskId) =
      .ok (project.setTask taskId (fun task => { task with status := .running })) := by
  unfold perform startTask
  refine (bind_of_ok _ (getTask_of_find found)).trans ?_
  rw [notGate, if_neg Bool.false_ne_true]
  rcases startable with isRework | isAssigned
  · rw [if_pos isRework]
    rfl
  · rw [isAssigned, if_neg (by decide), if_neg (not_not.2 rfl), satisfied, if_neg Bool.noConfusion]
    rfl

theorem submitTask_running {task : CrewTask} (artifact now : String)
    (found : project.findTask taskId = some task) (notGate : task.isGate = false)
    (isRunning : task.status = .running) :
    project.perform (.submitTask taskId artifact now) =
      .ok (project.setTask taskId (submitArtifact artifact now
        (if project.hasDownstreamGate task then .submitted else .done))).recomputeReadiness := by
  unfold perform submitTask
  refine (bind_of_ok _ (getTask_of_find found)).trans ?_
  rw [isRunning, if_neg (by decide), notGate, if_neg Bool.false_ne_true]
  rfl

theorem approve_distance_lt {gateTaskId : TaskId} (gates : project.GatesIdle)
    (distinct : project.DistinctIds) (reviewable : Reviewable project gateTaskId gate) :
    (project.approve gateTaskId gate comment).distance < project.distance := by
  have reviewed : List.Forall₂ (fun task task' : CrewTask =>
      (task'.id = task.id ∧ (task' = task ∨ task.status = .submitted)) ∧
        remaining task'.status ≤ remaining task.status) project.tasks
      (project.setReviewed gate (fun task => { task with status := .done })).tasks := by
    unfold setReviewed
    cases reviews : gate.reviewsTaskId with
    | none => exact List.forall₂_same.2 (fun _ _ => ⟨⟨rfl, Or.inl rfl⟩, Nat.le_refl _⟩)
    | some reviewedId =>
      refine setTask_forall₂ (fun _ => ⟨⟨rfl, Or.inl rfl⟩, Nat.le_refl _⟩) ?_
      intro task isTask
      obtain ⟨other, isOther, isSubmitted⟩ := reviewable.submitted reviewedId reviews
      rw [isTask] at isOther
      cases isOther
      exact ⟨⟨rfl, Or.inr isSubmitted⟩, Nat.zero_le _⟩
  have distinctReviewed := distinct.related (fun _ _ alike => alike.1.1) reviewed
  obtain ⟨gate', member, ⟨sameId, kept⟩, _⟩ :=
    forall₂_mem_left reviewed (findTask_mem reviewable.found)
  have notSubmitted : gate.status ≠ .submitted := by
    intro isSubmitted
    have notGate := not_gate_of_submitted gates reviewable.found isSubmitted
    exact absurd (reviewable.isGate.symm.trans notGate) Bool.noConfusion
  have same : gate' = gate := kept.resolve_right notSubmitted
  have found := findTask_of_mem distinctReviewed member
  rw [sameId, findTask_id reviewable.found, same] at found
  have isOpen : 0 < remaining gate.status := by
    cases isStatus : gate.status with
    | done => exact absurd isStatus reviewable.notDone
    | todo | assigned | running | submitted | inReview | rework | blocked => decide
  calc (project.approve gateTaskId gate comment).distance
      ≤ ((project.setReviewed gate (fun task => { task with status := .done })).setTask gateTaskId
          (fun task => { task with status := .done, reviewComment := comment })).distance :=
        recompute_distance
    _ < (project.setReviewed gate (fun task => { task with status := .done })).distance :=
        setTask_distance_lt distinctReviewed found isOpen
    _ ≤ project.distance :=
        sum_le_of_forall₂ (fun task : CrewTask => remaining task.status)
          (reviewed.imp (fun _ _ alike => alike.2))

/-! ### Progress -/

/-- A task that is neither done nor submitted. -/
def behind (project : CrewProject) : List CrewTask :=
  project.tasks.filter (fun task => task.status ∉ [submitted, .done])

theorem mem_behind {task : CrewTask} : task ∈ project.behind ↔
    task ∈ project.tasks ∧ task.status ≠ .submitted ∧ task.status ≠ .done := by
  unfold behind
  rw [List.mem_filter, decide_eq_true_iff, List.mem_cons, List.mem_singleton, not_or]

theorem gate_done_of_not_behind (gates : project.GatesIdle) (member : gate ∈ project.tasks)
    (isGate : gate.isGate = true) (ahead : gate ∉ project.behind) :
    gate.status = .done := by
  have idle := (gates gate member isGate).2
  by_contra notDone
  refine ahead (mem_behind.2 ⟨member, ?_, notDone⟩)
  intro isSubmitted
  rw [isSubmitted] at idle
  exact absurd idle (by decide)

theorem done_of_submitted (onItsWay : project.OnItsWay) {task : CrewTask}
    (member : task ∈ project.tasks) (isSubmitted : task.status = .submitted)
    (ahead : ∀ gate ∈ project.tasks, gate.Reviews task.id → gate ∉ project.behind) :
    task.status = .done := by
  obtain ⟨gate, isGate, reviews⟩ :=
    hasDownstreamGate_iff.1 (onItsWay.awaited task member isSubmitted)
  have gateDone := gate_done_of_not_behind onItsWay.gates isGate reviews.1
    (ahead gate isGate reviews)
  have isDone := onItsWay.reviewed gate isGate task.id reviews gateDone
  rw [statusById_of_mem onItsWay.distinct member] at isDone
  exact Option.some.inj isDone

theorem allDone_of_none_behind (onItsWay : project.OnItsWay) (none_behind : project.behind = []) :
    project.AllDone := by
  have ahead : ∀ task ∈ project.tasks, task ∉ project.behind := by
    intro task _
    rw [none_behind]
    exact List.not_mem_nil
  intro task member
  by_contra notDone
  refine ahead task member (mem_behind.2 ⟨member, ?_, notDone⟩)
  intro isSubmitted
  exact notDone (done_of_submitted onItsWay member isSubmitted (fun gate isGate _ =>
    ahead gate isGate))

def Unhindered (project : CrewProject) (task : CrewTask) : Prop :=
  ∀ other ∈ project.tasks, project.Waits task.id other.id → other ∉ project.behind

theorem upstream_ahead (completable : project.Completable) {task : CrewTask}
    (member : task ∈ project.tasks) (unhindered : Unhindered project task)
    (depends : taskId ∈ task.dependsOn) : ∃ upstream ∈ project.tasks, upstream.id = taskId ∧
      (upstream.status = .submitted ∨ upstream.status = .done) := by
  obtain ⟨upstream, isUpstream, isId⟩ := completable.known task member taskId depends
  refine ⟨upstream, isUpstream, isId, ?_⟩
  have ahead := unhindered upstream isUpstream (isId.symm ▸ .dependency member depends)
  by_contra isBehind
  rw [not_or] at isBehind
  exact ahead (mem_behind.2 ⟨isUpstream, isBehind⟩)

theorem work_ready (completable : project.Completable) (onItsWay : project.OnItsWay)
    {task : CrewTask} (member : task ∈ project.tasks) (notGate : task.isGate = false)
    (unhindered : Unhindered project task) : project.depsSatisfied task = true := by
  refine satisfied_of_dependenciesDone ?_
  intro taskId depends
  obtain ⟨upstream, isUpstream, isId, isSubmitted | isDone⟩ :=
    upstream_ahead completable member unhindered depends
  · have isDone := done_of_submitted onItsWay isUpstream isSubmitted (by
      intro gate isGate reviews
      rw [isId] at reviews
      exact unhindered gate isGate (.gate member isGate notGate depends reviews))
    rw [← isId, statusById_of_mem completable.distinct isUpstream, isDone]
  · rw [← isId, statusById_of_mem completable.distinct isUpstream, isDone]

theorem gate_ready (completable : project.Completable) (onItsWay : project.OnItsWay)
    (member : gate ∈ project.behind) (isGate : gate.isGate = true)
    (unhindered : Unhindered project gate) : project.Reviewable gate.id gate := by
  obtain ⟨isMember, _, notDone⟩ := mem_behind.1 member
  refine ⟨findTask_of_mem completable.distinct isMember, isGate, notDone, ?_, ?_⟩
  · intro taskId reviews
    have depends := completable.depend gate isMember taskId ⟨isGate, reviews⟩
    obtain ⟨upstream, isUpstream, isId, isSubmitted | isDone⟩ :=
      upstream_ahead completable isMember unhindered depends
    · refine ⟨upstream, ?_, isSubmitted⟩
      rw [← isId]
      exact findTask_of_mem completable.distinct isUpstream
    · refine absurd (onItsWay.released gate isMember upstream isUpstream ?_ isDone) notDone
      exact ⟨isGate, isId.symm ▸ reviews⟩
  · refine satisfied_of_upstreamReady isGate ?_
    intro taskId depends
    obtain ⟨upstream, isUpstream, isId, isStatus⟩ :=
      upstream_ahead completable isMember unhindered depends
    rw [← isId, statusById_of_mem completable.distinct isUpstream]
    exact isStatus.imp (congrArg some) (congrArg some)

theorem work_moves (distinct : project.DistinctIds) {task : CrewTask}
    (member : task ∈ project.behind) (notGate : task.isGate = false)
    (moving : task.status ≠ .inReview) (satisfied : project.depsSatisfied task = true) :
    ∃ call after, project.perform call = .ok after ∧ after.distance < project.distance := by
  obtain ⟨isMember, notSubmitted, notDone⟩ := mem_behind.1 member
  have found := findTask_of_mem distinct isMember
  cases isStatus : task.status with
  | blocked =>
    exact ⟨.recomputeReadiness, _, rfl, recompute_distance_lt isMember isStatus satisfied⟩
  | todo =>
    refine ⟨_, _, assignTask_todo project.ownerUserId found notGate isStatus,
      setTask_distance_lt distinct found ?_⟩
    change remaining (if task.status = .todo then .assigned else task.status) < _
    rw [if_pos isStatus, isStatus]
    decide
  | assigned =>
    refine ⟨_, _, startTask_startable found notGate (Or.inr isStatus) satisfied,
      setTask_distance_lt distinct found ?_⟩
    change remaining .running < _
    rw [isStatus]
    decide
  | rework =>
    refine ⟨_, _, startTask_startable found notGate (Or.inl isStatus) satisfied,
      setTask_distance_lt distinct found ?_⟩
    change remaining .running < _
    rw [isStatus]
    decide
  | running =>
    refine ⟨_, _, submitTask_running "" "" found notGate isStatus,
      Nat.lt_of_le_of_lt recompute_distance (setTask_distance_lt distinct found ?_)⟩
    change remaining (if project.hasDownstreamGate task then .submitted else .done) < _
    rw [isStatus]
    cases project.hasDownstreamGate task with
    | true => decide
    | false => decide
  | inReview => exact absurd isStatus moving
  | submitted => exact absurd isStatus notSubmitted
  | done => exact absurd isStatus notDone

theorem moves (completable : project.Completable) (onItsWay : project.OnItsWay)
    (unfinished : ¬ project.AllDone) :
    ∃ call after, project.perform call = .ok after ∧ after.distance < project.distance := by
  have some_behind : project.behind.map CrewTask.id ≠ [] := by
    intro none_behind
    exact unfinished (allDone_of_none_behind onItsWay (List.map_eq_nil_iff.1 none_behind))
  obtain ⟨taskId, member, isLeast⟩ := completable.acyclic.exists_least some_behind
  obtain ⟨task, isTask, rfl⟩ := List.mem_map.1 member
  have unhindered : Unhindered project task := by
    intro other _ waits isBehind
    exact isLeast other.id (List.mem_map_of_mem isBehind) (.single waits)
  have isMember := (mem_behind.1 isTask).1
  cases isGate : task.isGate with
  | false =>
    exact work_moves completable.distinct isTask isGate (onItsWay.moving task isMember)
      (work_ready completable onItsWay isMember isGate unhindered)
  | true =>
    have reviewable := gate_ready completable onItsWay isTask isGate unhindered
    exact ⟨.reviewTask task.id true none, _, reviewTask_of_reviewable reviewable,
      approve_distance_lt onItsWay.gates completable.distinct reviewable⟩

end CrewProject

section Instantiated

variable {projectId : ProjectId} {workspaceId : String} {ownerUserId : MemberId}
  {goalText : String} {template : SopTemplate} {taskIds : List TaskId} {project : CrewProject}

theorem reviews_of_instantiated {keyToId : String → Option TaskId} {spec : SopTaskSpec}
    (isTask : instantiateTask projectId keyToId spec = .ok gate) {taskId : TaskId}
    (reviews : gate.Reviews taskId) :
    ∃ key, spec.Reviews key ∧ keyToId key = some taskId := by
  obtain ⟨_, _, sameKind, isReviewed, _⟩ := instantiateTask_ok isTask
  cases isReviews : spec.reviews with
  | none =>
    rw [isReviews, reviews.2] at isReviewed
    cases isReviewed
  | some key =>
    by_cases isEmpty : key = ""
    · rw [isReviews, isEmpty, reviews.2] at isReviewed
      cases isReviewed
    · have isTruthy : truthy (some key) = true := decide_eq_true isEmpty
      rw [isReviews, if_pos isTruthy, Option.getD_some, reviews.2] at isReviewed
      refine ⟨key, ⟨sameKind.symm.trans reviews.1, isEmpty, isReviews⟩, ?_⟩
      cases found : lookupKey keyToId key with
      | error error =>
        rw [found] at isReviewed
        cases isReviewed
      | ok id =>
        rw [found] at isReviewed
        cases isReviewed
        exact lookupKey_ok found

theorem keyToId_key {key : String} {taskId : TaskId}
    (isId : keyToId template taskIds key = some taskId) :
    ∃ spec ∈ template.tasks, spec.key = key := by
  unfold keyToId at isId
  obtain ⟨entry, isEntry, _⟩ := Option.map_eq_some_iff.1 isId
  have matched := List.find?_some isEntry
  have member := List.mem_reverse.1 (List.mem_of_find?_eq_some isEntry)
  obtain ⟨spec, isSpec, isKey⟩ := List.mem_map.1 (List.of_mem_zip member).1
  exact ⟨spec, isSpec, isKey.trans (of_decide_eq_true matched)⟩

theorem dependency_of_instantiated {keyToId : String → Option TaskId} {spec : SopTaskSpec}
    {task : CrewTask} (isTask : instantiateTask projectId keyToId spec = .ok task)
    {taskId : TaskId} (depends : taskId ∈ task.dependsOn) :
    ∃ key ∈ spec.dependsOn, keyToId key = some taskId := by
  obtain ⟨_, areDependencies, _⟩ := instantiateTask_ok isTask
  obtain ⟨key, isKey, isId⟩ := forall₂_mem_right (mapM_ok areDependencies) depends
  exact ⟨key, isKey, lookupKey_ok isId⟩

theorem instantiateProject_completable (completable : template.Completable)
    (distinctIds : taskIds.Nodup)
    (instantiated : instantiateProject projectId workspaceId ownerUserId goalText template
      taskIds = .ok project) : project.Completable := by
  have related := instantiateProject_tasks instantiated
  have named : ∀ {spec task}, instantiateTask projectId (keyToId template taskIds) spec = .ok task →
      keyToId template taskIds spec.key = some task.id :=
    fun isTask => lookupKey_ok (instantiateTask_ok isTask).1
  have sameKey : ∀ ⦃key key' taskId⦄, keyToId template taskIds key = some taskId →
      keyToId template taskIds key' = some taskId → key = key' :=
    fun _ _ _ isId isId' => keyToId_injective distinctIds isId isId'
  have sameId : ∀ {key taskId taskId'}, keyToId template taskIds key = some taskId →
      keyToId template taskIds key = some taskId' → taskId = taskId' :=
    fun isId isId' => Option.some.inj (isId.symm.trans isId')
  refine ⟨?_, ?_, ?_, ?_, ?_, ?_⟩
  · refine distinct_of_related ?_ related completable.distinct
    intro spec spec' task task' isTask isTask' same
    exact sameKey (named isTask) (same ▸ named isTask')
  · intro task member taskId depends
    obtain ⟨spec, isSpec, isTask⟩ := forall₂_mem_right related member
    obtain ⟨key, _, isId⟩ := dependency_of_instantiated isTask depends
    obtain ⟨upstream, isUpstream, isKey⟩ := keyToId_key isId
    obtain ⟨upstreamTask, upstreamMember, isUpstreamTask⟩ := forall₂_mem_left related isUpstream
    refine ⟨upstreamTask, upstreamMember, sameId (named isUpstreamTask) ?_⟩
    rw [isKey]
    exact isId
  · refine completable.acyclic.of_named
      (fun key taskId => keyToId template taskIds key = some taskId) sameKey ?_
    intro taskId awaited waits
    cases waits with
    | dependency member depends =>
      obtain ⟨spec, isSpec, isTask⟩ := forall₂_mem_right related member
      obtain ⟨key, isKey, isId⟩ := dependency_of_instantiated isTask depends
      exact ⟨spec.key, key, named isTask, isId, .dependency isSpec isKey⟩
    | gate member gateMember notGate depends reviews =>
      obtain ⟨spec, isSpec, isTask⟩ := forall₂_mem_right related member
      obtain ⟨gateSpec, isGateSpec, isGate⟩ := forall₂_mem_right related gateMember
      obtain ⟨key, isKey, isId⟩ := dependency_of_instantiated isTask depends
      obtain ⟨reviewedKey, reviewsKey, isReviewed⟩ := reviews_of_instantiated isGate reviews
      rw [sameKey isReviewed isId] at reviewsKey
      have sameKind := (instantiateTask_ok isTask).2.2.1
      exact ⟨spec.key, gateSpec.key, named isTask, named isGate,
        .gate isSpec isGateSpec (sameKind.symm.trans notGate) isKey reviewsKey⟩
  · intro gate member taskId reviews
    obtain ⟨spec, isSpec, isTask⟩ := forall₂_mem_right related member
    obtain ⟨key, reviewsKey, isId⟩ := reviews_of_instantiated isTask reviews
    have depends := completable.depend spec isSpec key reviewsKey
    obtain ⟨dependency, isDependency, isLookup⟩ :=
      forall₂_mem_left (mapM_ok (instantiateTask_ok isTask).2.1) depends
    rw [sameId isId (lookupKey_ok isLookup)]
    exact isDependency
  · intro gate member other otherMember taskId reviews otherReviews
    obtain ⟨spec, isSpec, isTask⟩ := forall₂_mem_right related member
    obtain ⟨otherSpec, isOtherSpec, isOther⟩ := forall₂_mem_right related otherMember
    obtain ⟨key, reviewsKey, isId⟩ := reviews_of_instantiated isTask reviews
    obtain ⟨otherKey, otherReviewsKey, isOtherId⟩ := reviews_of_instantiated isOther otherReviews
    rw [sameKey isOtherId isId] at otherReviewsKey
    have same := completable.single spec isSpec otherSpec isOtherSpec key reviewsKey otherReviewsKey
    exact sameId (named isTask) (same ▸ named isOther)
  · intro gate member task taskMember reviews
    obtain ⟨spec, isSpec, isTask⟩ := forall₂_mem_right related member
    obtain ⟨workSpec, isWorkSpec, isWork⟩ := forall₂_mem_right related taskMember
    obtain ⟨key, reviewsKey, isId⟩ := reviews_of_instantiated isTask reviews
    rw [sameKey isId (named isWork)] at reviewsKey
    rw [(instantiateTask_ok isWork).2.2.1]
    exact completable.work spec isSpec workSpec isWorkSpec reviewsKey

theorem instantiateProject_status (instantiated : instantiateProject projectId workspaceId
      ownerUserId goalText template taskIds = .ok project) {task : CrewTask}
    (member : task ∈ project.tasks) : task.status = .todo ∨ task.status = .blocked := by
  obtain ⟨spec, _, isTask⟩ := forall₂_mem_right (instantiateProject_tasks instantiated) member
  exact status_of_instantiated (instantiateTask_ok isTask).2.2.2.2.1

theorem instantiateProject_not_in (instantiated : instantiateProject projectId workspaceId
      ownerUserId goalText template taskIds = .ok project) {task : CrewTask}
    (member : task ∈ project.tasks) {status : TaskStatus} (isStatus : task.status = status)
    (notTodo : status ≠ .todo) (notBlocked : status ≠ .blocked) : False := by
  rcases instantiateProject_status instantiated member with isTodo | isBlocked
  · exact notTodo (isStatus.symm.trans isTodo)
  · exact notBlocked (isStatus.symm.trans isBlocked)

theorem instantiateProject_approved (distinct : project.DistinctIds)
    (instantiated : instantiateProject projectId workspaceId ownerUserId goalText template
      taskIds = .ok project) : project.Approved := by
  refine ⟨(instantiateProject_gated instantiated).gates, distinct, ?_, ?_⟩
  · intro gate member taskId _ isDone
    exact (instantiateProject_not_in instantiated member isDone nofun nofun).elim
  · intro gate member other _ taskId _ _ isDone
    exact (instantiateProject_not_in instantiated member isDone nofun nofun).elim

theorem instantiateProject_onItsWay (distinct : project.DistinctIds)
    (instantiated : instantiateProject projectId workspaceId ownerUserId goalText template
      taskIds = .ok project) : project.OnItsWay := by
  refine ⟨instantiateProject_approved distinct instantiated, ?_, ?_, ?_⟩
  · intro task member isInReview
    exact instantiateProject_not_in instantiated member isInReview nofun nofun
  · intro task member isSubmitted
    exact (instantiateProject_not_in instantiated member isSubmitted nofun nofun).elim
  · intro gate member task taskMember _ isDone
    exact (instantiateProject_not_in instantiated taskMember isDone nofun nofun).elim

end Instantiated

/-- A call that succeeds. -/
def Performs (before : CrewProject) (call : LifecycleCall) (after : CrewProject) : Prop :=
  before.perform call = .ok after

theorem LifecycleStep.completable {before after : CrewProject} {call : LifecycleCall}
    (held : before.Completable ∧ before.OnItsWay) (step : LifecycleStep before call after) :
    after.Completable ∧ after.OnItsWay := by
  have progress := step.progress held.2.gates
  rcases step with succeeded | ⟨rfl, _⟩
  · exact ⟨held.1.of_shape (progress.imp (fun _ _ advanced => advanced.sameShape)),
      held.2.step held.1 succeeded⟩
  · exact held

/-- Every state of a run from a completable template has calls that succeed one
after the other and leave every task done. -/
theorem projects_can_be_finished {projectId : ProjectId} {workspaceId : String}
    {ownerUserId : MemberId} {goalText : String} {template : SopTemplate}
    {taskIds : List TaskId} {initial last : CrewProject}
    {trace : List (Move CrewProject LifecycleCall)} (completable : template.Completable)
    (distinctIds : taskIds.Nodup)
    (instantiated : instantiateProject projectId workspaceId ownerUserId goalText template
      taskIds = .ok initial)
    (run : Run LifecycleStep initial trace last) :
    ∃ finishing final, Run Performs last finishing final ∧ final.AllDone := by
  have start := instantiateProject_completable completable distinctIds instantiated
  have held : last.Completable ∧ last.OnItsWay :=
    run.invariant (fun project => project.Completable ∧ project.OnItsWay)
      (fun _ _ _ step held => step.completable held)
      ⟨start, instantiateProject_onItsWay start.distinct instantiated⟩
  refine run_of_descent (fun project => project.Completable ∧ project.OnItsWay)
    CrewProject.distance ?_ held
  intro project kept unfinished
  obtain ⟨call, after, succeeded, lower⟩ := CrewProject.moves kept.1 kept.2 unfinished
  exact ⟨call, after, succeeded, LifecycleStep.completable kept (Or.inl succeeded), lower⟩

/-- A producer, the gate over it and a task behind the gate. -/
def publicationTemplate : SopTemplate where
  id := "publication"
  tasks := [
    { key := "draft", title := "Draft", roleRequired := "writer", dependsOn := []
      isGate := false, reviews := none, acceptanceCriteria := none },
    { key := "check", title := "Check", roleRequired := "owner", dependsOn := ["draft"]
      isGate := true, reviews := some "draft", acceptanceCriteria := none },
    { key := "publish", title := "Publish", roleRequired := "editor"
      dependsOn := ["draft", "check"], isGate := false, reviews := none
      acceptanceCriteria := none }]

def publicationRank (key : String) : Nat :=
  if key = "draft" then 0 else if key = "check" then 1 else 2

theorem publication_reviews : ∀ gate ∈ publicationTemplate.tasks, ∀ key, gate.Reviews key →
    gate.key = "check" ∧ key = "draft" ∧ gate.dependsOn = ["draft"] := by
  intro gate member key reviews
  obtain ⟨isGate, _, isReviewed⟩ := reviews
  rcases List.mem_cons.1 member with rfl | later
  · cases isGate
  · rcases List.mem_cons.1 later with rfl | last
    · exact ⟨rfl, (Option.some.inj isReviewed).symm, rfl⟩
    · rw [List.mem_singleton.1 last] at isGate
      cases isGate

theorem publication_completable : publicationTemplate.Completable where
  distinct := by decide
  acyclic := by
    refine acyclic_of_rank publicationRank ?_
    intro key awaited waits
    cases waits with
    | dependency member depends =>
      have lowers : ∀ spec ∈ publicationTemplate.tasks, ∀ dependency ∈ spec.dependsOn,
          publicationRank dependency < publicationRank spec.key := by
        decide
      exact lowers _ member _ depends
    | gate member gateMember notGate depends reviews =>
      have lowers : ∀ spec ∈ publicationTemplate.tasks, spec.isGate = false →
          spec.dependsOn ≠ [] → publicationRank "check" < publicationRank spec.key := by
        decide
      rw [(publication_reviews _ gateMember _ reviews).1]
      exact lowers _ member notGate (List.ne_nil_of_mem depends)
  depend := by
    intro gate member key reviews
    obtain ⟨_, isDraft, isDependency⟩ := publication_reviews gate member key reviews
    rw [isDraft, isDependency]
    exact List.mem_singleton.2 rfl
  single := by
    intro gate member other otherMember key reviews otherReviews
    rw [(publication_reviews gate member key reviews).1,
      (publication_reviews other otherMember key otherReviews).1]
  work := by
    intro gate member spec specMember reviews
    have isWork : ∀ spec ∈ publicationTemplate.tasks, spec.key = "draft" → spec.isGate = false := by
      decide
    exact isWork spec specMember (publication_reviews gate member spec.key reviews).2.1

def publicationProject : CrewProject :=
  (instantiateProject "proj_1" "ws" "owner" "publication" publicationTemplate
    ["draft", "check", "publish"]).toOption.getD ⟨"", "", "", "", "", [], []⟩

theorem publicationProject_instantiated :
    instantiateProject "proj_1" "ws" "owner" "publication" publicationTemplate
      ["draft", "check", "publish"] = .ok publicationProject := rfl

theorem projects_can_be_finished_after_rejection :
    ∃ finishing final, Run Performs (publicationProject.performAll
      [.assignTask "draft" "ann", .startTask "draft", .submitTask "draft" "text" "now",
        .reviewTask "check" false (some "too short")]) finishing final ∧ final.AllDone := by
  obtain ⟨_, run⟩ := publicationProject.run_performAll
    [.assignTask "draft" "ann", .startTask "draft", .submitTask "draft" "text" "now",
      .reviewTask "check" false (some "too short")]
  exact projects_can_be_finished publication_completable (by decide)
    publicationProject_instantiated run

/-- Of two gates over one task the second is never approved. -/
theorem second_gate_is_never_done :
    ¬ ∀ (template : SopTemplate) (taskIds : List TaskId) (initial last : CrewProject)
      (trace : List (Move CrewProject LifecycleCall)),
      (template.tasks.map SopTaskSpec.key).Nodup → taskIds.Nodup → Acyclic template.DependsOn →
      (∀ spec ∈ template.tasks, spec.isGate = true →
        ∃ key ∈ spec.dependsOn, key ≠ "" ∧ spec.reviews = some key) →
      instantiateProject "proj_1" "ws" "owner" "release" template taskIds = .ok initial →
      Run LifecycleStep initial trace last →
      ∃ finishing final, Run LifecycleStep last finishing final ∧ final.AllDone := by
  intro claimed
  have acyclic : Acyclic twoGatesTemplate.DependsOn := by
    refine acyclic_of_rank (fun key => if key = "draft" then 0 else 1) ?_
    intro key dependency depends
    obtain ⟨spec, member, rfl, isDependency⟩ := depends
    have lowers : ∀ spec ∈ twoGatesTemplate.tasks, ∀ dependency ∈ spec.dependsOn,
        (if dependency = "draft" then 0 else 1) < (if spec.key = "draft" then 0 else 1) := by
      decide
    exact lowers spec member dependency isDependency
  obtain ⟨finishing, final, run, allDone⟩ := claimed twoGatesTemplate _ _ _ [] (by decide)
    (by decide) acyclic twoGatesTemplate_depends twoGatesProject_instantiated (.nil _)
  have wellGated := instantiateProject_wellGated (by decide) (by decide) twoGatesTemplate_depends
    twoGatesProject_instantiated
  have held : final.Approved ∧ List.Forall₂ SameShape twoGatesProject.tasks final.tasks := by
    refine run.invariant (fun project => project.Approved ∧
      List.Forall₂ SameShape twoGatesProject.tasks project.tasks) ?_
      ⟨instantiateProject_approved wellGated.distinct twoGatesProject_instantiated,
        List.forall₂_same.2 (fun _ _ => ⟨rfl, rfl, rfl, rfl⟩)⟩
    intro before call after step held
    refine ⟨held.1.step step, (forall₂_comp held.2 (step.progress held.1.gates)).imp ?_⟩
    intro task task' between
    obtain ⟨middle, same, advanced⟩ := between
    exact ⟨advanced.sameId.trans same.sameId, advanced.sameKind.trans same.sameKind,
      advanced.sameDependencies.trans same.sameDependencies,
      advanced.sameReviewed.trans same.sameReviewed⟩
  obtain ⟨approved, same⟩ := held
  have gates : ∀ taskId ∈ ["design", "legal"], ∃ gate ∈ twoGatesProject.tasks,
      gate.id = taskId ∧ gate.isGate = true ∧ gate.reviewsTaskId = some "draft" := by
    decide +kernel
  obtain ⟨design, isDesign, designId, designReviews⟩ := gates "design" (by decide)
  obtain ⟨legal, isLegal, legalId, legalReviews⟩ := gates "legal" (by decide)
  obtain ⟨design', member, designSame⟩ := forall₂_mem_left same isDesign
  obtain ⟨legal', legalMember, legalSame⟩ := forall₂_mem_left same isLegal
  have sameGate := approved.single design' member legal' legalMember "draft"
    (designSame.reviews.2 designReviews) (legalSame.reviews.2 legalReviews)
    (allDone design' member) (allDone legal' legalMember)
  rw [designSame.sameId, legalSame.sameId, designId, legalId] at sameGate
  exact absurd sameGate (by decide)

end AnnaAgent.Crew
