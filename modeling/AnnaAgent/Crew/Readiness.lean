/-
When the readiness of a crew project is exact.

A task is blocked exactly when its dependencies are not satisfied.  The
recomputation makes this so from any project in which every task that is not
blocked is ready, and every transition but a rejection keeps it.  A rejection
takes an upstream back, and keeps it when no other gate relied on that upstream.
-/

import AnnaAgent.Crew.GateSafety

namespace AnnaAgent.Crew

open Foundation

namespace CrewProject

variable (project : CrewProject)

def blockedTaskIds : List TaskId :=
  (project.tasks.filter (fun task => task.status = .blocked)).map CrewTask.id

def newlyActive (blockedBefore : List TaskId) : List CrewTask :=
  project.tasks.filter (fun task => task.id ∈ blockedBefore ∧ task.status ≠ .blocked)

def Exact : Prop :=
  ∀ task ∈ project.tasks, task.status = .blocked ↔ project.depsSatisfied task = false

def Ready : Prop :=
  ∀ task ∈ project.tasks, task.status ≠ .blocked → project.depsSatisfied task = true

def DistinctIds : Prop :=
  (project.tasks.map CrewTask.id).Nodup

def GatesDepend : Prop :=
  ∀ gate ∈ project.tasks, gate.isGate = true →
    ∃ reviewedId ∈ gate.dependsOn, gate.reviewsTaskId = some reviewedId

end CrewProject

/-- A rejection finds every other gate that depends on the reviewed task
blocked. -/
def LoneRejection (before : CrewProject) (call : LifecycleCall) : Prop :=
  ∀ gateTaskId comment gate reviewedId, call = .reviewTask gateTaskId false comment →
    before.Reviewable gateTaskId gate → gate.reviewsTaskId = some reviewedId →
    ∀ other ∈ before.tasks, other.isGate = true → reviewedId ∈ other.dependsOn →
      other.id ≠ gateTaskId → other.status = .blocked

variable {after : CrewProject}

namespace CrewProject

variable {project : CrewProject}

theorem Exact.ready (exact : project.Exact) : project.Ready := by
  intro task member notBlocked
  cases satisfied : project.depsSatisfied task with
  | true => rfl
  | false => exact absurd ((exact task member).2 satisfied) notBlocked

theorem ready_depsSatisfied (other : CrewProject) (task : CrewTask) :
    other.depsSatisfied (project.ready task) = other.depsSatisfied task := by
  unfold ready
  split
  · rfl
  · rfl

theorem depsSatisfied_recompute (task : CrewTask) :
    project.recomputeReadiness.depsSatisfied task = project.depsSatisfied task := by
  have wholly := depsSatisfied_partly project.tasks [] (List.append_nil _).symm task
  rw [List.append_nil, ← recomputeReadiness_tasks] at wholly
  exact wholly

theorem recompute_exact (ready : project.Ready) : project.recomputeReadiness.Exact := by
  intro task' member
  rw [recomputeReadiness_tasks] at member
  obtain ⟨task, isTask, rfl⟩ := List.mem_map.1 member
  rw [depsSatisfied_recompute, ready_depsSatisfied]
  unfold CrewProject.ready
  by_cases wakes : task.status = .blocked ∧ project.depsSatisfied task
  · rw [if_pos wakes]
    constructor
    · intro isBlocked
      change readyStatus task = .blocked at isBlocked
      rcases readyStatus_cases task with isReady | isReady
      · rw [isReady] at isBlocked
        cases isBlocked
      · rw [isReady] at isBlocked
        cases isBlocked
    · intro unsatisfied
      rw [wakes.2] at unsatisfied
      cases unsatisfied
  · rw [if_neg wakes]
    constructor
    · intro isBlocked
      exact Bool.eq_false_iff.2 (fun satisfied => wakes ⟨isBlocked, satisfied⟩)
    · intro unsatisfied
      by_contra notBlocked
      rw [ready task isTask notBlocked] at unsatisfied
      cases unsatisfied

/-- An update that takes no dependency back and wakes no task that is not
ready. -/
structure Raises (project : CrewProject) (task task' : CrewTask) : Prop where
  sameId : task'.id = task.id
  sameKind : task'.isGate = task.isGate
  sameDependencies : task'.dependsOn = task.dependsOn
  satisfies : ∀ other, task.status ∈ satisfying other → task'.status ∈ satisfying other
  wakes : task'.status ≠ .blocked → task.status ≠ .blocked ∨ project.depsSatisfied task = true

theorem Raises.refl (project : CrewProject) (task : CrewTask) : Raises project task task where
  sameId := rfl
  sameKind := rfl
  sameDependencies := rfl
  satisfies _ held := held
  wakes notBlocked := Or.inl notBlocked

variable {task task' gate : CrewTask} {taskId gateTaskId reviewedId : TaskId}
  {comment : Option String}

theorem Raises.depsSatisfied_eq (raises : Raises project task task') (other : CrewProject) :
    other.depsSatisfied task' = other.depsSatisfied task := by
  unfold depsSatisfied satisfying
  rw [raises.sameDependencies, raises.sameKind]

theorem Raises.trans {task'' : CrewTask} (first : Raises project task task')
    (second : Raises project task' task'') : Raises project task task'' where
  sameId := second.sameId.trans first.sameId
  sameKind := second.sameKind.trans first.sameKind
  sameDependencies := second.sameDependencies.trans first.sameDependencies
  satisfies other held := second.satisfies other (first.satisfies other held)
  wakes notBlocked := by
    rcases second.wakes notBlocked with between | satisfied
    · exact first.wakes between
    · exact Or.inr ((first.depsSatisfied_eq project).symm.trans satisfied)

theorem Raises.compose {first middle last : List CrewTask}
    (early : List.Forall₂ (Raises project) first middle)
    (late : List.Forall₂ (Raises project) middle last) :
    List.Forall₂ (Raises project) first last := by
  refine (forall₂_comp early late).imp ?_
  intro task task' between
  obtain ⟨_, toBetween, fromBetween⟩ := between
  exact toBetween.trans fromBetween

theorem Ready.raise {other : CrewProject} (ready : project.Ready)
    (raised : List.Forall₂ (Raises project) project.tasks other.tasks) : other.Ready := by
  intro task' member notBlocked
  obtain ⟨task, isTask, raises⟩ := forall₂_mem_right raised member
  have satisfied : project.depsSatisfied task = true := by
    rcases raises.wakes notBlocked with wasReady | satisfied
    · exact ready task isTask wasReady
    · exact satisfied
  refine depsSatisfied_mono raises.sameDependencies raises.sameKind (raised.imp ?_) satisfied
  intro left right alike
  exact ⟨alike.sameId.symm, alike.satisfies task⟩

/-- An update that changes neither what satisfies nor what is blocked. -/
structure Alike (task task' : CrewTask) : Prop where
  sameId : task'.id = task.id
  sameKind : task'.isGate = task.isGate
  sameDependencies : task'.dependsOn = task.dependsOn
  satisfies : ∀ other, task.status ∈ satisfying other ↔ task'.status ∈ satisfying other
  blocked : task.status = .blocked ↔ task'.status = .blocked

theorem Exact.alike {other : CrewProject} (exact : project.Exact)
    (related : List.Forall₂ Alike project.tasks other.tasks) : other.Exact := by
  intro task' member
  obtain ⟨task, isTask, alike⟩ := forall₂_mem_right related member
  have sameSatisfied : other.depsSatisfied task' = project.depsSatisfied task := by
    rw [Bool.eq_iff_iff]
    constructor
    · refine depsSatisfied_mono alike.sameDependencies.symm alike.sameKind.symm
        (related.flip.imp ?_)
      intro left right pair
      exact ⟨pair.sameId, (pair.satisfies task').2⟩
    · refine depsSatisfied_mono alike.sameDependencies alike.sameKind (related.imp ?_)
      intro left right pair
      exact ⟨pair.sameId.symm, (pair.satisfies task).1⟩
  rw [sameSatisfied, ← exact task isTask]
  exact alike.blocked.symm

theorem not_satisfying {status : TaskStatus} (notSubmitted : status ≠ .submitted)
    (notDone : status ≠ .done) : status ∉ satisfying task := by
  unfold satisfying
  cases status with
  | submitted => exact absurd rfl notSubmitted
  | done => exact absurd rfl notDone
  | todo | assigned | running | inReview | rework | blocked =>
    cases task.isGate with
    | true => decide
    | false => decide

theorem done_satisfying : TaskStatus.done ∈ satisfying task := by
  unfold satisfying
  cases task.isGate with
  | true => decide
  | false => decide

/-- A task whose old status satisfied nothing, or whose new one satisfies
everything, with the rest of it that matters kept. -/
theorem raises_of (sameId : task'.id = task.id) (sameKind : task'.isGate = task.isGate)
    (sameDependencies : task'.dependsOn = task.dependsOn)
    (satisfies : task.status ≠ .submitted ∧ task.status ≠ .done ∨ task'.status = .done)
    (wakes : task'.status ≠ .blocked → task.status ≠ .blocked ∨ project.depsSatisfied task = true) :
    Raises project task task' where
  sameId := sameId
  sameKind := sameKind
  sameDependencies := sameDependencies
  satisfies other held := by
    rcases satisfies with unsatisfying | isDone
    · exact absurd held (not_satisfying unsatisfying.1 unsatisfying.2)
    · rw [isDone]
      exact done_satisfying
  wakes := wakes

theorem alike_refl (task : CrewTask) : Alike task task :=
  ⟨rfl, rfl, rfl, fun _ => Iff.rfl, Iff.rfl⟩

theorem assignTask_exact {memberId : MemberId} {previous : Option MemberId}
    (succeeded : project.assignTask taskId memberId = .ok (previous, after)) (exact : project.Exact) :
    after.Exact := by
  obtain ⟨found, isFound, _, isStatus, _, rfl⟩ := assignTask_ok succeeded
  refine exact.alike (setTask_forall₂ alike_refl ?_)
  intro task isTask
  by_cases isTodo : task.status = .todo
  · refine ⟨rfl, rfl, rfl, ?_, ?_⟩
    · intro other
      change task.status ∈ _ ↔ (if task.status = .todo then TaskStatus.assigned else _) ∈ _
      rw [if_pos isTodo, isTodo]
      exact iff_of_false (not_satisfying (by decide) (by decide))
        (not_satisfying (by decide) (by decide))
    · change task.status = _ ↔ (if task.status = .todo then TaskStatus.assigned else _) = _
      rw [if_pos isTodo, isTodo]
      decide
  · refine ⟨rfl, rfl, rfl, ?_, ?_⟩
    · intro other
      change task.status ∈ _ ↔ (if task.status = .todo then TaskStatus.assigned else _) ∈ _
      rw [if_neg isTodo]
    · change task.status = _ ↔ (if task.status = .todo then TaskStatus.assigned else _) = _
      rw [if_neg isTodo]

theorem startTask_exact (succeeded : project.startTask taskId = .ok after) (exact : project.Exact) :
    after.Exact := by
  obtain ⟨found, isFound, _, startable, rfl⟩ := startTask_ok succeeded
  have wasStatus : found.status = .rework ∨ found.status = .assigned := startable.imp_right And.left
  refine exact.alike (setTask_forall₂ alike_refl ?_)
  intro task isTask
  rw [isFound] at isTask
  cases isTask
  refine ⟨rfl, rfl, rfl, ?_, ?_⟩
  · intro other
    refine iff_of_false ?_ (not_satisfying nofun nofun)
    rcases wasStatus with isRework | isAssigned
    · rw [isRework]
      exact not_satisfying (by decide) (by decide)
    · rw [isAssigned]
      exact not_satisfying (by decide) (by decide)
  · refine iff_of_false ?_ nofun
    rcases wasStatus with isRework | isAssigned
    · rw [isRework]
      decide
    · rw [isAssigned]
      decide

theorem submitTask_exact {artifact now : String}
    (succeeded : project.submitTask taskId artifact now = .ok after) (exact : project.Exact) :
    after.Exact := by
  obtain ⟨found, isFound, _, isOpen, rfl⟩ := submitTask_ok succeeded
  refine recompute_exact (exact.ready.raise (setTask_forall₂ (Raises.refl project) ?_))
  intro task isTask
  rw [isFound] at isTask
  cases isTask
  refine raises_of rfl rfl rfl (Or.inl ?_) (fun _ => Or.inl ?_)
  · rcases List.mem_cons.1 isOpen with isRunning | isLater
    · rw [isRunning]
      decide
    · rw [List.mem_singleton.1 isLater]
      decide
  · rcases List.mem_cons.1 isOpen with isRunning | isLater
    · rw [isRunning]
      decide
    · rw [List.mem_singleton.1 isLater]
      decide

theorem approve_exact (reviewable : Reviewable project gateTaskId gate) (exact : project.Exact) :
    (project.approve gateTaskId gate comment).Exact := by
  have reviewed : List.Forall₂ (Raises project) project.tasks
      (project.setReviewed gate (fun task => { task with status := .done })).tasks := by
    unfold setReviewed
    cases reviews : gate.reviewsTaskId with
    | none => exact List.forall₂_same.2 (fun task _ => Raises.refl project task)
    | some reviewedId =>
      refine setTask_forall₂ (Raises.refl project) ?_
      intro task isTask
      obtain ⟨other, isOther, isSubmitted⟩ := reviewable.submitted reviewedId reviews
      rw [isTask] at isOther
      cases isOther
      refine raises_of rfl rfl rfl (Or.inr rfl) (fun _ => Or.inl ?_)
      rw [isSubmitted]
      decide
  refine recompute_exact (exact.ready.raise (Raises.compose reviewed ?_))
  refine setTask_forall₂ (Raises.refl project) ?_
  intro found isFound
  obtain ⟨other, isOther, raises⟩ :=
    findTask_forall₂ (fun _ _ alike => alike.sameId) reviewed isFound
  rw [reviewable.found] at isOther
  cases isOther
  refine raises_of rfl rfl rfl (Or.inr rfl) (fun _ => Or.inr ?_)
  exact (raises.depsSatisfied_eq project).trans reviewable.satisfied

/-! ### Rejections -/

theorem findTask_of_mem (distinct : project.DistinctIds) (member : task ∈ project.tasks) :
    project.findTask task.id = some task :=
  find?_of_distinct distinct member

theorem statusById_of_mem (distinct : project.DistinctIds) (member : task ∈ project.tasks) :
    project.statusById task.id = some task.status := by
  unfold statusById
  have reversed : (project.tasks.reverse.map CrewTask.id).Nodup := by
    rw [List.map_reverse, List.nodup_reverse]
    exact distinct
  rw [find?_of_distinct reversed (List.mem_reverse.2 member)]
  rfl

theorem statusById_of_find (distinct : project.DistinctIds)
    (found : project.findTask taskId = some task) :
    project.statusById taskId = some task.status := by
  rw [← findTask_id found]
  exact statusById_of_mem distinct (findTask_mem found)

def rejectedStatus (gateTaskId reviewedId taskId : TaskId) (status : TaskStatus) : TaskStatus :=
  if taskId = reviewedId then .rework else if taskId = gateTaskId then .blocked else status

section

variable (distinct : project.DistinctIds)

include distinct

theorem reject_forall₂ (reviews : gate.reviewsTaskId = some reviewedId) :
    List.Forall₂ (fun task task' => task'.id = task.id ∧ task'.isGate = task.isGate ∧
      task'.dependsOn = task.dependsOn ∧
      task'.status = rejectedStatus gateTaskId reviewedId task.id task.status)
      project.tasks (project.reject gateTaskId gate comment).tasks := by
  have isRejected : (project.reject gateTaskId gate comment).tasks =
      updateFirst (fun task => task.id = reviewedId)
        (fun task => { task with status := .rework, blocker := comment })
        (updateFirst (fun task => task.id = gateTaskId)
          (fun task => { task with status := .blocked, reviewComment := comment })
          project.tasks) := by
    unfold reject setReviewed
    rw [reviews]
    rfl
  have sameIds : ((updateFirst (fun task => task.id = gateTaskId)
      (fun task => { task with status := .blocked, reviewComment := comment })
      project.tasks).map CrewTask.id).Nodup := by
    rw [updateFirst_of_distinct distinct, List.map_map]
    refine (congrArg List.Nodup (List.map_congr_left ?_)).mpr distinct
    intro task _
    rw [Function.comp_apply]
    split
    · rfl
    · rfl
  rw [isRejected, updateFirst_of_distinct sameIds, updateFirst_of_distinct distinct, List.map_map,
    List.forall₂_map_right_iff]
  refine List.forall₂_same.2 ?_
  intro task _
  rw [Function.comp_apply]
  unfold rejectedStatus
  by_cases isGate : task.id = gateTaskId
  · rw [if_pos isGate]
    by_cases isReviewed : task.id = reviewedId
    · rw [if_pos isReviewed, if_pos isReviewed]
      exact ⟨rfl, rfl, rfl, rfl⟩
    · rw [if_neg isReviewed, if_neg isReviewed, if_pos isGate]
      exact ⟨rfl, rfl, rfl, rfl⟩
  · rw [if_neg isGate]
    by_cases isReviewed : task.id = reviewedId
    · rw [if_pos isReviewed, if_pos isReviewed]
      exact ⟨rfl, rfl, rfl, rfl⟩
    · rw [if_neg isReviewed, if_neg isReviewed, if_neg isGate]
      exact ⟨rfl, rfl, rfl, rfl⟩

theorem statusById_reject (reviews : gate.reviewsTaskId = some reviewedId) (taskId : TaskId) :
    (project.reject gateTaskId gate comment).statusById taskId =
      (project.statusById taskId).map (rejectedStatus gateTaskId reviewedId taskId) := by
  have related : List.Forall₂ (fun task task' => task'.id = task.id ∧ task'.isGate = task.isGate ∧
      task'.dependsOn = task.dependsOn ∧
      task'.status = rejectedStatus gateTaskId reviewedId task.id task.status)
      project.tasks (project.reject gateTaskId gate comment).tasks :=
    reject_forall₂ distinct reviews
  have finds := find?_forall₂ (p := fun task => decide (task.id = taskId))
    (q := fun task => decide (task.id = taskId)) (fun task task' alike => by rw [alike.1])
    (List.forall₂_reverse_iff.2 related)
  unfold statusById
  cases isTask : project.tasks.reverse.find? (fun task => decide (task.id = taskId)) with
  | none =>
    rw [isTask] at finds
    cases isTask' : (project.reject gateTaskId gate comment).tasks.reverse.find?
        (fun task => decide (task.id = taskId)) with
    | none => rfl
    | some task' =>
      rw [isTask'] at finds
      cases finds
  | some task =>
    have matched := List.find?_some isTask
    have sameId : task.id = taskId := of_decide_eq_true matched
    rw [isTask] at finds
    cases isTask' : (project.reject gateTaskId gate comment).tasks.reverse.find?
        (fun task => decide (task.id = taskId)) with
    | none =>
      rw [isTask'] at finds
      cases finds
    | some task' =>
      rw [isTask'] at finds
      cases finds with
      | some alike =>
        change some task'.status = some _
        rw [alike.2.2.2, sameId]

theorem reject_unsatisfied (reviews : gate.reviewsTaskId = some reviewedId)
    (sameDependencies : task'.dependsOn = task.dependsOn) (depends : reviewedId ∈ task.dependsOn) :
    (project.reject gateTaskId gate comment).depsSatisfied task' = false := by
  refine Bool.eq_false_iff.2 ?_
  intro satisfied
  rw [← sameDependencies] at depends
  obtain ⟨status, isSatisfying, isStatus⟩ := depsSatisfied_status satisfied depends
  rw [statusById_reject distinct reviews] at isStatus
  cases wasStatus : project.statusById reviewedId with
  | none =>
    rw [wasStatus] at isStatus
    cases isStatus
  | some was =>
    rw [wasStatus] at isStatus
    have isRework : rejectedStatus gateTaskId reviewedId reviewedId was = .rework := if_pos rfl
    rw [Option.map_some, isRework] at isStatus
    cases isStatus
    exact not_satisfying (by decide) (by decide) isSatisfying

theorem reject_otherwise (reviews : gate.reviewsTaskId = some reviewedId)
    (found : project.findTask gateTaskId = some gate) (notSubmitted : gate.status ≠ .submitted)
    (notDone : gate.status ≠ .done) (sameKind : task'.isGate = task.isGate)
    (sameDependencies : task'.dependsOn = task.dependsOn)
    (independent : reviewedId ∉ task.dependsOn) :
    (project.reject gateTaskId gate comment).depsSatisfied task' = project.depsSatisfied task := by
  have sameSatisfying : satisfying task' = satisfying task := by
    unfold satisfying
    rw [sameKind]
  unfold depsSatisfied
  rw [sameDependencies, sameSatisfying]
  rw [Bool.eq_iff_iff, List.all_eq_true, List.all_eq_true]
  refine forall₂_congr ?_
  intro dependency member
  rw [statusById_reject distinct reviews]
  have notReviewed : dependency ≠ reviewedId := by
    intro same
    rw [same] at member
    exact independent member
  by_cases isGate : dependency = gateTaskId
  · rw [isGate, statusById_of_find distinct found]
    have isBlocked : rejectedStatus gateTaskId reviewedId gateTaskId gate.status = .blocked := by
      unfold rejectedStatus
      rw [if_neg (isGate ▸ notReviewed), if_pos rfl]
    rw [Option.map_some, isBlocked, Option.any_some, Option.any_some,
      decide_eq_false (not_satisfying (by decide) (by decide)),
      decide_eq_false (not_satisfying notSubmitted notDone)]
  · have isSame : rejectedStatus gateTaskId reviewedId dependency = fun status => status := by
      funext status
      unfold rejectedStatus
      rw [if_neg notReviewed, if_neg isGate]
    rw [isSame, Option.map_id']

theorem reject_exact_iff (gates : project.GatesIdle) (depend : project.GatesDepend)
    (dependencies : ∀ task ∈ project.tasks, task.isGate = false → task.status ∈ started → DependenciesDone project task)
    (reviewable : Reviewable project gateTaskId gate)
    (reviews : gate.reviewsTaskId = some reviewedId) (exact : project.Exact) :
    (project.reject gateTaskId gate comment).Exact ↔
      ∀ other ∈ project.tasks, other.isGate = true → reviewedId ∈ other.dependsOn →
        other.id ≠ gateTaskId → other.status = .blocked := by
  have related : List.Forall₂ (fun task task' => task'.id = task.id ∧ task'.isGate = task.isGate ∧
      task'.dependsOn = task.dependsOn ∧
      task'.status = rejectedStatus gateTaskId reviewedId task.id task.status)
      project.tasks (project.reject gateTaskId gate comment).tasks :=
    reject_forall₂ distinct reviews
  obtain ⟨reviewed, isReviewed, isSubmitted⟩ := reviewable.submitted reviewedId reviews
  have reviewedNotGate := not_gate_of_submitted gates isReviewed isSubmitted
  have gateNotSubmitted : gate.status ≠ .submitted := by
    intro isSubmitted
    have idle := (gates gate (findTask_mem reviewable.found) reviewable.isGate).2
    rw [isSubmitted] at idle
    exact absurd idle (by decide)
  have apart : gateTaskId ≠ reviewedId := by
    intro same
    rw [← same, reviewable.found] at isReviewed
    cases isReviewed
    exact gateNotSubmitted isSubmitted
  constructor
  · intro exactAfter other isOther isGate depends notThisGate
    obtain ⟨other', isOther', sameId, sameKind, sameDependencies, isStatus⟩ :=
      forall₂_mem_left related isOther
    have blocked := (exactAfter other' isOther').2
      (reject_unsatisfied distinct reviews sameDependencies depends)
    have notReviewed : other.id ≠ reviewedId := by
      intro same
      have again := findTask_of_mem distinct isOther
      rw [same, isReviewed] at again
      cases again
      exact absurd (isGate.symm.trans reviewedNotGate) Bool.noConfusion
    unfold rejectedStatus at isStatus
    rw [if_neg notReviewed, if_neg notThisGate] at isStatus
    rw [← isStatus]
    exact blocked
  · intro lone task' member
    obtain ⟨task, isTask, sameId, sameKind, sameDependencies, isStatus⟩ :=
      forall₂_mem_right related member
    have taskFound := findTask_of_mem distinct isTask
    by_cases isReviewedTask : task.id = reviewedId
    · rw [isReviewedTask, isReviewed] at taskFound
      cases taskFound
      have isRework : task'.status = .rework := by
        rw [isStatus]
        unfold rejectedStatus
        rw [if_pos isReviewedTask]
      have isStarted : reviewed.status ∈ started := by
        rw [isSubmitted]
        decide
      have done := dependencies reviewed isTask reviewedNotGate isStarted
      have independent : reviewedId ∉ reviewed.dependsOn := by
        intro depends
        have isDone := done reviewedId depends
        rw [statusById_of_find distinct isReviewed, isSubmitted] at isDone
        cases isDone
      rw [reject_otherwise distinct reviews reviewable.found gateNotSubmitted reviewable.notDone
        sameKind sameDependencies independent, ← exact reviewed isTask, isRework, isSubmitted]
      decide
    · by_cases isThisGate : task.id = gateTaskId
      · rw [isThisGate, reviewable.found] at taskFound
        cases taskFound
        have isBlocked : task'.status = .blocked := by
          rw [isStatus]
          unfold rejectedStatus
          rw [if_neg isReviewedTask, if_pos isThisGate]
        obtain ⟨upstream, isUpstream, reviewsUpstream⟩ := depend gate isTask reviewable.isGate
        have sameUpstream : upstream = reviewedId := by
          rw [reviews] at reviewsUpstream
          cases reviewsUpstream
          rfl
        rw [sameUpstream] at isUpstream
        exact iff_of_true isBlocked
          (reject_unsatisfied distinct reviews sameDependencies isUpstream)
      · have sameStatus : task'.status = task.status := by
          rw [isStatus]
          unfold rejectedStatus
          rw [if_neg isReviewedTask, if_neg isThisGate]
        rw [sameStatus]
        by_cases depends : reviewedId ∈ task.dependsOn
        · refine iff_of_true ?_ (reject_unsatisfied distinct reviews sameDependencies depends)
          cases isGate : task.isGate with
          | true => exact lone task isTask isGate depends isThisGate
          | false =>
            refine (exact task isTask).2 (Bool.eq_false_iff.2 ?_)
            intro satisfied
            have isDone := dependenciesDone_of_satisfied isGate satisfied reviewedId depends
            rw [statusById_of_find distinct isReviewed, isSubmitted] at isDone
            cases isDone
        · rw [reject_otherwise distinct reviews reviewable.found gateNotSubmitted
            reviewable.notDone sameKind sameDependencies depends]
          exact exact task isTask

end

end CrewProject

/-! ### Runs -/

/-- What every state of a run from a template has in common. -/
structure WellGated (project : CrewProject) : Prop extends WorkGated project where
  distinct : project.DistinctIds
  depend : project.GatesDepend

theorem WellGated.step {before : CrewProject} {call : LifecycleCall} (wellGated : WellGated before)
    (step : LifecycleStep before call after) : WellGated after := by
  have progress := step.progress wellGated.gates
  refine ⟨wellGated.toWorkGated.step step, ?_, ?_⟩
  · have distinctIds : (before.tasks.map CrewTask.id).Nodup := wellGated.distinct
    refine distinct_of_related ?_ progress distinctIds
    intro task other task' other' advanced advanced' sameId
    rw [← advanced.sameId, ← advanced'.sameId, sameId]
  · intro gate' member isGate
    obtain ⟨gate, isTask, advanced⟩ := forall₂_mem_right progress member
    rw [advanced.sameKind] at isGate
    rw [advanced.sameDependencies, advanced.sameReviewed]
    exact wellGated.depend gate isTask isGate

theorem lookupKey_ok {keyToId : String → Option TaskId} {key : String} {id : TaskId}
    (succeeded : lookupKey keyToId key = .ok id) : keyToId key = some id := by
  unfold lookupKey at succeeded
  cases isId : keyToId key with
  | none =>
    rw [isId] at succeeded
    cases succeeded
  | some other =>
    rw [isId] at succeeded
    cases succeeded
    rfl

theorem keyToId_injective {template : SopTemplate} {taskIds : List TaskId}
    (distinct : taskIds.Nodup) {key key' : String} {id : TaskId}
    (isId : keyToId template taskIds key = some id)
    (isId' : keyToId template taskIds key' = some id) : key = key' := by
  unfold keyToId at isId isId'
  rw [Option.map_eq_some_iff] at isId isId'
  obtain ⟨entry, isEntry, isIdOf⟩ := isId
  obtain ⟨entry', isEntry', isIdOf'⟩ := isId'
  have matched := List.find?_some isEntry
  have matched' := List.find?_some isEntry'
  have member := List.mem_reverse.1 (List.mem_of_find?_eq_some isEntry)
  have member' := List.mem_reverse.1 (List.mem_of_find?_eq_some isEntry')
  have distinctZip : (((template.tasks.map SopTaskSpec.key).zip taskIds).map Prod.snd).Nodup :=
    distinct.sublist (zip_snd_sublist _ _)
  have sameEntry := List.inj_on_of_nodup_map distinctZip member member' (isIdOf.trans isIdOf'.symm)
  rw [← of_decide_eq_true matched, ← of_decide_eq_true matched', sameEntry]

section Instantiated

variable {projectId : ProjectId} {workspaceId : String} {ownerUserId : MemberId}
  {goalText : String} {template : SopTemplate} {taskIds : List TaskId} {project : CrewProject}

theorem instantiateProject_wellGated (distinctKeys : (template.tasks.map SopTaskSpec.key).Nodup)
    (distinctIds : taskIds.Nodup)
    (depend : ∀ spec ∈ template.tasks, spec.isGate = true →
      ∃ key ∈ spec.dependsOn, key ≠ "" ∧ spec.reviews = some key)
    (instantiated : instantiateProject projectId workspaceId ownerUserId goalText template
      taskIds = .ok project) : WellGated project := by
  have related := instantiateProject_tasks instantiated
  refine ⟨instantiateProject_gated instantiated, ?_, ?_⟩
  · refine distinct_of_related ?_ related distinctKeys
    intro spec spec' task task' isTask isTask' sameId
    have isId := lookupKey_ok (instantiateTask_ok isTask).1
    have isId' := lookupKey_ok (instantiateTask_ok isTask').1
    rw [← sameId] at isId'
    exact keyToId_injective distinctIds isId isId'
  · intro gate member isGate
    obtain ⟨spec, isSpec, isTask⟩ := forall₂_mem_right related member
    obtain ⟨_, areDependencies, sameKind, isReviewed, _⟩ := instantiateTask_ok isTask
    obtain ⟨key, isKey, notEmpty, reviews⟩ := depend spec isSpec (sameKind.symm.trans isGate)
    obtain ⟨reviewedId, isDependency, isId⟩ := forall₂_mem_left (mapM_ok areDependencies) isKey
    refine ⟨reviewedId, isDependency, ?_⟩
    have isReviewing : truthy (some key) = true := decide_eq_true notEmpty
    rw [reviews, if_pos isReviewing, Option.getD_some, isId] at isReviewed
    cases isReviewed' : gate.reviewsTaskId with
    | none =>
      rw [isReviewed'] at isReviewed
      cases isReviewed
    | some other =>
      rw [isReviewed'] at isReviewed
      cases isReviewed
      rfl

theorem instantiateProject_exact
    (instantiated : instantiateProject projectId workspaceId ownerUserId goalText template
      taskIds = .ok project) : project.Exact := by
  have fresh : ∀ task ∈ project.tasks,
      task.status = (if task.dependsOn = [] then .todo else .blocked) := by
    intro task member
    obtain ⟨spec, _, isTask⟩ := forall₂_mem_right (instantiateProject_tasks instantiated) member
    exact (instantiateTask_ok isTask).2.2.2.2.1
  intro task member
  rw [fresh task member]
  cases isDependencies : task.dependsOn with
  | nil =>
    rw [if_pos rfl]
    unfold CrewProject.depsSatisfied
    rw [isDependencies, List.all_nil]
    decide
  | cons dependency rest =>
    rw [if_neg (List.cons_ne_nil dependency rest)]
    refine iff_of_true rfl (Bool.eq_false_iff.2 ?_)
    intro satisfied
    obtain ⟨status, isSatisfying, isStatus⟩ := CrewProject.depsSatisfied_status satisfied
      (by rw [isDependencies]; exact List.mem_cons_self)
    unfold CrewProject.statusById at isStatus
    rw [Option.map_eq_some_iff] at isStatus
    obtain ⟨upstream, isUpstream, isStatus⟩ := isStatus
    have upstreamMember := List.mem_reverse.1 (List.mem_of_find?_eq_some isUpstream)
    rcases status_of_instantiated (fresh upstream upstreamMember) with isTodo | isBlocked
    · rw [← isStatus, isTodo] at isSatisfying
      exact CrewProject.not_satisfying (by decide) (by decide) isSatisfying
    · rw [← isStatus, isBlocked] at isSatisfying
      exact CrewProject.not_satisfying (by decide) (by decide) isSatisfying

end Instantiated

/-- From an exact project a step leads to an exact one unless it is a rejection
that leaves another gate behind. -/
theorem step_exact_iff {before : CrewProject} {call : LifecycleCall} (wellGated : WellGated before)
    (exact : before.Exact) (step : LifecycleStep before call after) :
    after.Exact ↔ LoneRejection before call := by
  by_cases rejects : ∃ gateTaskId comment, call = .reviewTask gateTaskId false comment
  · obtain ⟨gateTaskId, comment, rfl⟩ := rejects
    rcases step with succeeded | ⟨rfl, error, failed⟩
    · obtain ⟨gate, reviewable, rfl⟩ := CrewProject.reviewTask_ok succeeded
      obtain ⟨reviewedId, _, reviews⟩ :=
        wellGated.depend gate (CrewProject.findTask_mem reviewable.found) reviewable.isGate
      refine (CrewProject.reject_exact_iff wellGated.distinct wellGated.gates wellGated.depend
        wellGated.dependencies reviewable reviews exact).trans ?_
      constructor
      · intro lone gateTaskId' comment' gate' reviewedId' sameCall reviewable' reviews'
        cases sameCall
        have sameGate := reviewable.found.symm.trans reviewable'.found
        cases sameGate
        rw [reviews] at reviews'
        cases reviews'
        exact lone
      · intro lone
        exact lone gateTaskId comment gate reviewedId rfl reviewable reviews
    · refine iff_of_true exact ?_
      intro gateTaskId' comment' gate reviewedId sameCall reviewable _
      cases sameCall
      rw [CrewProject.perform, CrewProject.reviewTask_of_reviewable reviewable] at failed
      cases failed
  · refine iff_of_true ?_ ?_
    · rcases step with succeeded | ⟨rfl, _⟩
      · cases call with
        | assignTask taskId memberId =>
          change (before.assignTask taskId memberId).map Prod.snd = .ok after at succeeded
          cases answered : before.assignTask taskId memberId with
          | error error =>
            rw [answered] at succeeded
            cases succeeded
          | ok answer =>
            rw [answered] at succeeded
            cases succeeded
            exact CrewProject.assignTask_exact answered exact
        | startTask taskId => exact CrewProject.startTask_exact succeeded exact
        | submitTask taskId artifact now => exact CrewProject.submitTask_exact succeeded exact
        | reviewTask gateTaskId approved comment =>
          cases approved with
          | false => exact absurd ⟨gateTaskId, comment, rfl⟩ rejects
          | true =>
            obtain ⟨gate, reviewable, rfl⟩ := CrewProject.reviewTask_ok succeeded
            exact CrewProject.approve_exact reviewable exact
        | recomputeReadiness =>
          cases succeeded
          exact CrewProject.recompute_exact exact.ready
      · exact exact
    · intro gateTaskId comment _ _ isRejection
      exact absurd ⟨gateTaskId, comment, isRejection⟩ rejects

/-- A submission finds every gate that depends on the task blocked, and
announces each one whose upstream is then ready. -/
def Rearms (before : CrewProject) : Prop :=
  ∀ taskId artifact now after, before.submitTask taskId artifact now = .ok after →
    ∀ gate ∈ after.tasks, gate.isGate = true → taskId ∈ gate.dependsOn →
      gate.id ∈ before.blockedTaskIds ∧
        (UpstreamReady after gate →
          gate.status = .todo ∧ gate ∈ after.newlyActive before.blockedTaskIds)

theorem rearms_of_exact {project : CrewProject} (wellGated : WellGated project)
    (exact : project.Exact) : Rearms project := by
  intro taskId artifact now after succeeded gate' member isGate depends
  have step : LifecycleStep project (.submitTask taskId artifact now) after := Or.inl succeeded
  have exactAfter := CrewProject.submitTask_exact succeeded exact
  obtain ⟨gate, isTask, advanced⟩ := forall₂_mem_right (step.progress wellGated.gates) member
  obtain ⟨submitted, isSubmitted, _, isOpen, _⟩ := CrewProject.submitTask_ok succeeded
  have wasGate : gate.isGate = true := advanced.sameKind.symm.trans isGate
  have wasBlocked : gate.status = .blocked := by
    refine (exact gate isTask).2 (Bool.eq_false_iff.2 ?_)
    intro satisfied
    rw [advanced.sameDependencies] at depends
    have ready := CrewProject.upstreamReady_of_satisfied wasGate satisfied taskId depends
    rw [CrewProject.statusById_of_find wellGated.distinct isSubmitted] at ready
    rcases ready with isSubmitted | isDone
    · rw [Option.some.inj isSubmitted] at isOpen
      exact absurd isOpen (by decide)
    · rw [Option.some.inj isDone] at isOpen
      exact absurd isOpen (by decide)
  have wasListed : gate'.id ∈ project.blockedTaskIds := by
    rw [advanced.sameId]
    exact List.mem_map.2 ⟨gate, List.mem_filter.2 ⟨isTask, decide_eq_true wasBlocked⟩, rfl⟩
  refine ⟨wasListed, ?_⟩
  intro ready
  have notBlocked : gate'.status ≠ .blocked := by
    intro isBlocked
    have unsatisfied := (exactAfter gate' member).1 isBlocked
    rw [CrewProject.satisfied_of_upstreamReady isGate ready] at unsatisfied
    cases unsatisfied
  refine ⟨?_, List.mem_filter.2 ⟨member, decide_eq_true ⟨wasListed, notBlocked⟩⟩⟩
  rcases List.mem_cons.1 ((wellGated.step step).gates gate' member isGate).2 with isTodo | later
  · exact isTodo
  · rcases List.mem_cons.1 later with isBlocked | isDone
    · exact absurd isBlocked notBlocked
    · have wasOpen : gate.status ≠ .done := by
        rw [wasBlocked]
        decide
      obtain ⟨_, comment, sameCall⟩ :=
        (advanced.completes wasOpen (List.mem_singleton.1 isDone)).1 wasGate
      cases sameCall

/-- While rejections are lone, readiness is exact in every state of a run and
each submission announces its gates.  The next step keeps it so unless it is a
rejection that is not lone. -/
theorem readiness_exact_while_rejections_are_lone {projectId : ProjectId} {workspaceId : String}
    {ownerUserId : MemberId} {goalText : String} {template : SopTemplate}
    {taskIds : List TaskId} {initial last : CrewProject}
    {trace : List (Move CrewProject LifecycleCall)}
    (distinctKeys : (template.tasks.map SopTaskSpec.key).Nodup) (distinctIds : taskIds.Nodup)
    (depend : ∀ spec ∈ template.tasks, spec.isGate = true →
      ∃ key ∈ spec.dependsOn, key ≠ "" ∧ spec.reviews = some key)
    (instantiated : instantiateProject projectId workspaceId ownerUserId goalText template
      taskIds = .ok initial)
    (run : Run LifecycleStep initial trace last)
    (lone : ∀ move ∈ trace, LoneRejection move.before move.label) :
    last.Exact ∧
      (∀ gate ∈ last.tasks, gate.isGate = true → gate.status = .todo → UpstreamReady last gate) ∧
      Rearms last ∧
      ∀ call after, LifecycleStep last call after → (after.Exact ↔ LoneRejection last call) := by
  have reached : WellGated last ∧ last.Exact := by
    refine run.keeps (fun project => WellGated project ∧ project.Exact) ?_
      ⟨instantiateProject_wellGated distinctKeys distinctIds depend instantiated,
        instantiateProject_exact instantiated⟩
    intro move member step held
    exact ⟨held.1.step step, (step_exact_iff held.1 held.2 step).2 (lone move member)⟩
  obtain ⟨wellGated, exact⟩ := reached
  refine ⟨exact, ?_, rearms_of_exact wellGated exact, ?_⟩
  · intro gate member isGate isTodo
    refine CrewProject.upstreamReady_of_satisfied isGate (exact.ready gate member ?_)
    rw [isTodo]
    decide
  · intro call after step
    exact step_exact_iff wellGated exact step

def twoGatesTemplate : SopTemplate where
  id := "release"
  tasks := [
    { key := "draft", title := "Draft", roleRequired := "writer", dependsOn := []
      isGate := false, reviews := none, acceptanceCriteria := none },
    { key := "design", title := "Design review", roleRequired := "owner", dependsOn := ["draft"]
      isGate := true, reviews := some "draft", acceptanceCriteria := none },
    { key := "legal", title := "Legal review", roleRequired := "owner", dependsOn := ["draft"]
      isGate := true, reviews := some "draft", acceptanceCriteria := none }]

def twoGatesProject : CrewProject :=
  (instantiateProject "proj_1" "ws" "owner" "release" twoGatesTemplate
    ["draft", "design", "legal"]).toOption.getD ⟨"", "", "", "", "", [], []⟩

theorem twoGatesProject_instantiated :
    instantiateProject "proj_1" "ws" "owner" "release" twoGatesTemplate
      ["draft", "design", "legal"] = .ok twoGatesProject := rfl

theorem twoGatesTemplate_depends : ∀ spec ∈ twoGatesTemplate.tasks, spec.isGate = true →
    ∃ key ∈ spec.dependsOn, key ≠ "" ∧ spec.reviews = some key := by
  intro spec member isGate
  rcases List.mem_cons.1 member with rfl | later
  · cases isGate
  · rcases List.mem_cons.1 later with rfl | last
    · exact ⟨"draft", List.mem_singleton.2 rfl, by decide, rfl⟩
    · rw [List.mem_singleton.1 last]
      exact ⟨"draft", List.mem_singleton.2 rfl, by decide, rfl⟩

theorem readiness_exact_while_draft_is_submitted :
    (twoGatesProject.performAll [.assignTask "draft" "ann"]).Exact := by
  have step := twoGatesProject.step_performOne (.assignTask "draft" "ann")
  refine (readiness_exact_while_rejections_are_lone (by decide) (by decide)
    twoGatesTemplate_depends twoGatesProject_instantiated (.single step) ?_).1
  intro move member gateTaskId comment gate reviewedId isRejection
  rw [List.mem_singleton.1 member] at isRejection
  cases isRejection

/-- A rejection by one gate leaves the other waiting for a review of work that
is being redone, and the next submission does not announce it. -/
theorem rejection_leaves_other_gate_ready :
    ¬ ∀ (template : SopTemplate) (taskIds : List TaskId) (initial last : CrewProject)
      (trace : List (Move CrewProject LifecycleCall)),
      (template.tasks.map SopTaskSpec.key).Nodup → taskIds.Nodup →
      (∀ spec ∈ template.tasks, spec.isGate = true →
        ∃ key ∈ spec.dependsOn, key ≠ "" ∧ spec.reviews = some key) →
      instantiateProject "proj_1" "ws" "owner" "release" template taskIds = .ok initial →
      Run LifecycleStep initial trace last →
      (∀ task ∈ last.tasks, task.status = .blocked ↔ last.depsSatisfied task = false) := by
  intro claimed
  obtain ⟨trace, run⟩ := twoGatesProject.run_performAll
    [.assignTask "draft" "ann", .startTask "draft", .submitTask "draft" "text" "now",
      .reviewTask "design" false none]
  have exact := claimed twoGatesTemplate _ _ _ _ (by decide) (by decide) twoGatesTemplate_depends
    twoGatesProject_instantiated run
  exact absurd exact (by decide +kernel)

end AnnaAgent.Crew
