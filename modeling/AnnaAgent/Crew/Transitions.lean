/-
What the transitions of a crew project do to its tasks.

Tasks keep their places.  A transition that succeeds has one of six shapes, and
each is a list of single updates followed, where the code says so, by a
recomputation that only wakes blocked tasks.
-/

import AnnaAgent.Crew.Lifecycle

namespace AnnaAgent.Crew

open Foundation

namespace CrewProject

variable {project : CrewProject}

variable {taskId gateTaskId : TaskId} {task : CrewTask} {after : CrewProject}

theorem getTask_ok (found : project.getTask taskId = .ok task) :
    project.findTask taskId = some task := by
  unfold getTask at found
  cases isTask : project.findTask taskId with
  | none =>
    rw [isTask] at found
    cases found
  | some other =>
    rw [isTask] at found
    cases found
    rfl

theorem findTask_id (found : project.findTask taskId = some task) : task.id = taskId := by
  have matched := List.find?_some found
  exact of_decide_eq_true matched

theorem findTask_mem (found : project.findTask taskId = some task) : task ∈ project.tasks :=
  List.mem_of_find?_eq_some found

variable {other : CrewProject}

theorem statusById_forall₂ {R : TaskStatus → TaskStatus → Prop}
    (related : List.Forall₂ (fun task task' => task.id = task'.id ∧ R task.status task'.status)
      project.tasks other.tasks) (taskId : TaskId) :
    Option.Rel R (project.statusById taskId) (other.statusById taskId) := by
  have finds := find?_forall₂ (p := fun task => decide (task.id = taskId))
    (q := fun task => decide (task.id = taskId)) (fun task task' alike => by rw [alike.1])
    (List.forall₂_reverse_iff.2 related)
  unfold statusById
  cases isTask : project.tasks.reverse.find? (fun task => decide (task.id = taskId)) with
  | none =>
    rw [isTask] at finds
    cases isTask' : other.tasks.reverse.find? (fun task => decide (task.id = taskId)) with
    | none => exact .none
    | some task' =>
      rw [isTask'] at finds
      cases finds
  | some task =>
    rw [isTask] at finds
    cases isTask' : other.tasks.reverse.find? (fun task => decide (task.id = taskId)) with
    | none =>
      rw [isTask'] at finds
      cases finds
    | some task' =>
      rw [isTask'] at finds
      cases finds with
      | some alike => exact .some alike.2

theorem depsSatisfied_mono {task' : CrewTask}
    (sameDependencies : task'.dependsOn = task.dependsOn) (sameKind : task'.isGate = task.isGate)
    (related : List.Forall₂ (fun left right => left.id = right.id ∧ (left.status ∈ satisfying task
      → right.status ∈ satisfying task)) project.tasks other.tasks)
    (satisfied : project.depsSatisfied task = true) : other.depsSatisfied task' = true := by
  have sameSatisfying : satisfying task' = satisfying task := by
    unfold satisfying
    rw [sameKind]
  unfold depsSatisfied at satisfied ⊢
  rw [sameDependencies, sameSatisfying, List.all_eq_true]
  rw [List.all_eq_true] at satisfied
  intro dependency member
  have holds := satisfied dependency member
  have statuses := statusById_forall₂
    (R := fun left right => left ∈ satisfying task → right ∈ satisfying task) related dependency
  cases isStatus : project.statusById dependency with
  | none =>
    rw [isStatus] at holds
    cases holds
  | some status =>
    rw [isStatus] at holds statuses
    cases isStatus' : other.statusById dependency with
    | none =>
      rw [isStatus'] at statuses
      cases statuses
    | some status' =>
      rw [isStatus'] at statuses
      cases statuses with
      | some keeps => exact decide_eq_true (keeps (of_decide_eq_true holds))

theorem satisfying_not_blocked : TaskStatus.blocked ∉ satisfying task := by
  unfold satisfying
  cases task.isGate with
  | true => decide
  | false => decide

theorem readyStatus_cases (task : CrewTask) :
    readyStatus task = .assigned ∨ readyStatus task = .todo := by
  unfold readyStatus
  cases truthy task.assigneeMemberId with
  | true => exact Or.inl rfl
  | false => exact Or.inr rfl

theorem readyStatus_not_satisfying {other : CrewTask} : readyStatus other ∉ satisfying task := by
  unfold satisfying
  rcases readyStatus_cases other with isReady | isReady
  · rw [isReady]
    cases task.isGate with
    | true => decide
    | false => decide
  · rw [isReady]
    cases task.isGate with
    | true => decide
    | false => decide

/-- What the recomputation makes of a task. -/
def ready (project : CrewProject) (task : CrewTask) : CrewTask :=
  if task.status = .blocked ∧ project.depsSatisfied task then
    { task with status := readyStatus task }
  else task

theorem ready_id (task : CrewTask) : (project.ready task).id = task.id := by
  unfold ready
  split
  · rfl
  · rfl

theorem ready_satisfying (task other : CrewTask) :
    (project.ready task).status ∈ satisfying other ↔ task.status ∈ satisfying other := by
  unfold ready
  split
  · rename_i wakes
    rw [wakes.1]
    exact ⟨fun impossible => absurd impossible readyStatus_not_satisfying,
      fun impossible => absurd impossible satisfying_not_blocked⟩
  · exact Iff.rfl

theorem depsSatisfied_partly (first rest : List CrewTask) (isTasks : project.tasks = first ++ rest)
    (task : CrewTask) :
    ({ project with tasks := first.map project.ready ++ rest } : CrewProject).depsSatisfied task =
      project.depsSatisfied task := by
  have refl : List.Forall₂ (fun left right : CrewTask => left.id = right.id ∧
      (left.status ∈ satisfying task ↔ right.status ∈ satisfying task)) rest rest :=
    List.forall₂_same.2 (fun _ _ => ⟨rfl, Iff.rfl⟩)
  have woken : List.Forall₂ (fun left right : CrewTask => left.id = right.id ∧
      (left.status ∈ satisfying task ↔ right.status ∈ satisfying task))
        (first.map project.ready) first := by
    rw [List.forall₂_map_left_iff]
    exact List.forall₂_same.2 (fun other _ => ⟨ready_id other, ready_satisfying other task⟩)
  have related : List.Forall₂ (fun left right : CrewTask => left.id = right.id ∧
      (left.status ∈ satisfying task ↔ right.status ∈ satisfying task))
        (first.map project.ready ++ rest) project.tasks := by
    rw [isTasks]
    exact List.rel_append woken refl
  rw [Bool.eq_iff_iff]
  constructor
  · refine depsSatisfied_mono rfl rfl (related.imp ?_)
    intro left right alike
    exact ⟨alike.1, alike.2.1⟩
  · refine depsSatisfied_mono rfl rfl (related.flip.imp ?_)
    intro left right alike
    exact ⟨alike.1.symm, alike.2.2⟩

theorem recomputeFrom_eq (first rest : List CrewTask) (isTasks : project.tasks = first ++ rest) :
    project.recomputeFrom (first.map project.ready) rest = project.tasks.map project.ready := by
  induction rest generalizing first with
  | nil =>
    rw [recomputeFrom, isTasks, List.append_nil]
  | cons task rest ih =>
    have later := ih (first ++ [task]) (by rw [isTasks, List.append_assoc]; rfl)
    rw [List.map_append, List.map_singleton] at later
    rw [recomputeFrom, depsSatisfied_partly first (task :: rest) isTasks]
    by_cases wakes : task.status = .blocked ∧ project.depsSatisfied task
    · have isReady : project.ready task = { task with status := readyStatus task } := if_pos wakes
      rw [if_pos wakes, ← isReady]
      exact later
    · have isReady : project.ready task = task := if_neg wakes
      rw [if_neg wakes]
      rw [isReady] at later
      exact later

theorem recomputeReadiness_tasks :
    project.recomputeReadiness.tasks = project.tasks.map project.ready :=
  recomputeFrom_eq [] project.tasks rfl

variable {R : CrewTask → CrewTask → Prop}

theorem setTask_forall₂ (refl : ∀ task, R task task) {assign : CrewTask → CrewTask}
    (assigned : ∀ task, project.findTask taskId = some task → R task (assign task)) :
    List.Forall₂ R project.tasks (project.setTask taskId assign).tasks :=
  updateFirst_forall₂ refl assigned

theorem recomputeReadiness_forall₂ (woken : ∀ task, R task (project.ready task)) :
    List.Forall₂ R project.tasks project.recomputeReadiness.tasks := by
  rw [recomputeReadiness_tasks, List.forall₂_map_right_iff]
  exact List.forall₂_same.2 (fun task _ => woken task)

theorem findTask_forall₂ (sameId : ∀ task task', R task task' → task'.id = task.id)
    (related : List.Forall₂ R project.tasks other.tasks) {task' : CrewTask}
    (found : other.findTask taskId = some task') :
    ∃ task, project.findTask taskId = some task ∧ R task task' := by
  refine find?_related (p := fun task => decide (task.id = taskId)) ?_ related found
  intro task other alike
  rw [sameId task other alike]

theorem assignTask_ok {memberId : MemberId} {previous : Option MemberId}
    (succeeded : project.assignTask taskId memberId = .ok (previous, after)) :
    ∃ task, project.findTask taskId = some task ∧ task.isGate = false ∧
      task.status ∈ [TaskStatus.todo, .blocked, .assigned] ∧
      previous = task.assigneeMemberId ∧
      after = project.setTask taskId (fun task =>
        { task with
          assigneeMemberId := some memberId
          status := if task.status = .todo then .assigned else task.status }) := by
  unfold assignTask at succeeded
  obtain ⟨task, isTask, succeeded⟩ := bind_ok succeeded
  refine ⟨task, getTask_ok isTask, ?_⟩
  cases isGate : task.isGate with
  | true =>
    rw [isGate, if_pos rfl] at succeeded
    cases succeeded
  | false =>
    rw [isGate, if_neg Bool.false_ne_true] at succeeded
    by_cases assignable : task.status ∈ [TaskStatus.todo, .blocked, .assigned]
    · rw [if_neg (not_not.2 assignable)] at succeeded
      cases succeeded
      exact ⟨rfl, assignable, rfl, rfl⟩
    · rw [if_pos assignable] at succeeded
      cases succeeded

theorem startTask_ok (succeeded : project.startTask taskId = .ok after) :
    ∃ task, project.findTask taskId = some task ∧ task.isGate = false ∧
      (task.status = .rework ∨ task.status = .assigned ∧ project.depsSatisfied task = true) ∧
      after = project.setTask taskId (fun task => { task with status := .running }) := by
  unfold startTask at succeeded
  obtain ⟨task, isTask, succeeded⟩ := bind_ok succeeded
  refine ⟨task, getTask_ok isTask, ?_⟩
  cases isGate : task.isGate with
  | true =>
    rw [isGate, if_pos rfl] at succeeded
    cases succeeded
  | false =>
    rw [isGate, if_neg Bool.false_ne_true] at succeeded
    by_cases isRework : task.status = .rework
    · rw [if_pos isRework] at succeeded
      cases succeeded
      exact ⟨rfl, Or.inl isRework, rfl⟩
    · rw [if_neg isRework] at succeeded
      by_cases isAssigned : task.status = .assigned
      · rw [if_neg (not_not.2 isAssigned)] at succeeded
        cases satisfied : project.depsSatisfied task with
        | false =>
          rw [satisfied, if_pos rfl] at succeeded
          cases succeeded
        | true =>
          rw [satisfied, if_neg (Bool.noConfusion)] at succeeded
          cases succeeded
          exact ⟨rfl, Or.inr ⟨isAssigned, rfl⟩, rfl⟩
      · rw [if_pos isAssigned] at succeeded
        cases succeeded

theorem submitTask_ok {artifact now : String}
    (succeeded : project.submitTask taskId artifact now = .ok after) :
    ∃ task, project.findTask taskId = some task ∧ task.isGate = false ∧
      task.status ∈ [TaskStatus.running, .rework] ∧
      after = (project.setTask taskId (submitArtifact artifact now
        (if project.hasDownstreamGate task then .submitted else .done))).recomputeReadiness := by
  unfold submitTask at succeeded
  obtain ⟨task, isTask, succeeded⟩ := bind_ok succeeded
  refine ⟨task, getTask_ok isTask, ?_⟩
  by_cases isOpen : task.status ∈ [TaskStatus.running, .rework]
  · rw [if_neg (not_not.2 isOpen)] at succeeded
    cases isGate : task.isGate with
    | true =>
      rw [isGate, if_pos rfl] at succeeded
      cases succeeded
    | false =>
      rw [isGate, if_neg Bool.false_ne_true] at succeeded
      cases succeeded
      exact ⟨rfl, isOpen, rfl⟩
  · rw [if_pos isOpen] at succeeded
    cases succeeded

theorem checkReviewed_ok {gate : CrewTask} {answer : Unit}
    (succeeded : project.checkReviewed gateTaskId gate = .ok answer) {reviewedId : TaskId}
    (reviews : gate.reviewsTaskId = some reviewedId) :
    ∃ reviewed, project.findTask reviewedId = some reviewed ∧ reviewed.status = .submitted := by
  unfold checkReviewed at succeeded
  rw [reviews] at succeeded
  obtain ⟨reviewed, isReviewed, succeeded⟩ := bind_ok succeeded
  refine ⟨reviewed, getTask_ok isReviewed, ?_⟩
  by_cases isSubmitted : reviewed.status = .submitted
  · exact isSubmitted
  · rw [if_pos isSubmitted] at succeeded
    cases succeeded

/-- A review finds a gate that is not done, whose reviewed task is submitted and
whose upstream is satisfied. -/
structure Reviewable (project : CrewProject) (gateTaskId : TaskId) (gate : CrewTask) : Prop where
  found : project.findTask gateTaskId = some gate
  isGate : gate.isGate = true
  notDone : gate.status ≠ .done
  submitted : ∀ reviewedId, gate.reviewsTaskId = some reviewedId →
    ∃ reviewed, project.findTask reviewedId = some reviewed ∧ reviewed.status = .submitted
  satisfied : project.depsSatisfied gate = true

theorem reviewTask_ok {approved : Bool} {comment : Option String}
    (succeeded : project.reviewTask gateTaskId approved comment = .ok after) :
    ∃ gate, Reviewable project gateTaskId gate ∧
      after = if approved then project.approve gateTaskId gate comment
        else project.reject gateTaskId gate comment := by
  unfold reviewTask at succeeded
  obtain ⟨gate, isFound, succeeded⟩ := bind_ok succeeded
  refine ⟨gate, ?_⟩
  cases isGate : gate.isGate with
  | false =>
    rw [isGate, if_pos rfl] at succeeded
    cases succeeded
  | true =>
    rw [isGate, if_neg (Bool.noConfusion)] at succeeded
    by_cases isDone : gate.status = .done
    · rw [if_pos isDone] at succeeded
      cases succeeded
    · rw [if_neg isDone] at succeeded
      obtain ⟨answer, checked, succeeded⟩ := bind_ok succeeded
      cases satisfied : project.depsSatisfied gate with
      | false =>
        rw [satisfied, if_pos rfl] at succeeded
        cases succeeded
      | true =>
        rw [satisfied, if_neg (Bool.noConfusion)] at succeeded
        refine ⟨⟨getTask_ok isFound, isGate, isDone, ?_, satisfied⟩, ?_⟩
        · intro reviewedId reviews
          exact checkReviewed_ok checked reviews
        · cases approved with
          | true | false =>
            cases succeeded
            rfl

theorem getTask_of_find (found : project.findTask taskId = some task) :
    project.getTask taskId = .ok task := by
  unfold getTask
  rw [found]

theorem reviewTask_of_reviewable {gate : CrewTask} {approved : Bool} {comment : Option String}
    (reviewable : Reviewable project gateTaskId gate) :
    project.reviewTask gateTaskId approved comment =
      .ok (if approved then project.approve gateTaskId gate comment
        else project.reject gateTaskId gate comment) := by
  have checked : project.checkReviewed gateTaskId gate = .ok () := by
    unfold checkReviewed
    cases reviews : gate.reviewsTaskId with
    | none => rfl
    | some reviewedId =>
      obtain ⟨reviewed, isReviewed, isSubmitted⟩ := reviewable.submitted reviewedId reviews
      refine (bind_of_ok _ (getTask_of_find isReviewed)).trans ?_
      exact if_neg (not_not.2 isSubmitted)
  unfold reviewTask
  refine (bind_of_ok _ (getTask_of_find reviewable.found)).trans ?_
  rw [reviewable.isGate, if_neg (Bool.noConfusion), if_neg reviewable.notDone]
  refine (bind_of_ok _ checked).trans ?_
  rw [reviewable.satisfied, if_neg (Bool.noConfusion)]
  cases approved with
  | true => rfl
  | false => rfl

end CrewProject

end AnnaAgent.Crew
