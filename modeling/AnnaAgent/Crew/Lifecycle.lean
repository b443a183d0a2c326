/-
Crew projects and the transitions of their tasks (`crew/app/lifecycle.py`,
`crew/app/schemas.py`).

A transition takes the project and gives the changed one or the error it
raises; a raised error leaves the project as it was.  Looking a task up finds
the first one with the identity, and the status of an identity is that of the
last one.
-/

import AnnaAgent.Foundation.FirstMatch
import AnnaAgent.Foundation.Run
import AnnaAgent.Execution.Models

namespace AnnaAgent.Crew

open Foundation

abbrev TaskId := String
abbrev MemberId := String
abbrev ProjectId := String

inductive TaskStatus where
  | todo
  | assigned
  | running
  | submitted
  | inReview
  | rework
  | done
  | blocked
  deriving DecidableEq

structure ArtifactVersion where
  version : Nat
  content : String
  submittedAt : String
  deriving DecidableEq

structure CrewTask where
  id : TaskId
  projectId : ProjectId
  key : String
  title : String
  description : String := ""
  status : TaskStatus
  roleRequired : String
  assigneeMemberId : Option MemberId
  dependsOn : List TaskId
  isGate : Bool
  reviewsTaskId : Option TaskId
  acceptanceCriteria : Option String
  artifact : Option String
  artifactVersions : List ArtifactVersion
  reviewComment : Option String
  blocker : Option String
  runRef : Option String
  runStartedAt : Option String
  origin : String := "sop"
  createdFromMessageId : Option String

structure SopTaskSpec where
  key : String
  title : String
  roleRequired : String
  dependsOn : List String
  isGate : Bool
  reviews : Option String
  acceptanceCriteria : Option String

structure SopTemplate where
  id : String
  tasks : List SopTaskSpec

/-- An entry of `audit_events` without the project's own identity. -/
structure AuditEvent where
  type : String
  payload : Execution.JsonObject
  createdAt : String

structure CrewProject where
  id : ProjectId
  workspaceId : String
  ownerUserId : MemberId
  goalText : String
  sopTemplateId : String
  tasks : List CrewTask
  auditEvents : List AuditEvent := []

/-- `CrewLifecycleError`, with what its message names; `keyError` is the
missing key of a template. -/
inductive LifecycleError where
  | keyError (key : String)
  | taskNotFound (taskId : TaskId) (projectId : ProjectId)
  | gateNotAssignable (taskId : TaskId)
  | cannotAssign (taskId : TaskId) (status : TaskStatus)
  | gateNotStarted (taskId : TaskId)
  | cannotStart (taskId : TaskId) (status : TaskStatus)
  | dependenciesNotDone (taskId : TaskId)
  | cannotSubmit (taskId : TaskId) (status : TaskStatus)
  | gateNotSubmitted (taskId : TaskId)
  | notAGate (taskId : TaskId)
  | alreadyReviewed (taskId : TaskId)
  | reviewedNotSubmitted (gateTaskId reviewedTaskId : TaskId) (status : TaskStatus)
  | upstreamNotSatisfied (gateTaskId : TaskId)
  deriving DecidableEq

/-- A text counts as true when it is there and not empty. -/
def truthy (text : Option String) : Bool :=
  text.any (fun value => decide (value ≠ ""))

def lookupKey (keyToId : String → Option TaskId) (key : String) : Except LifecycleError TaskId :=
  match keyToId key with
  | some id => .ok id
  | none => .error (.keyError key)

def instantiateTask (projectId : ProjectId) (keyToId : String → Option TaskId)
    (spec : SopTaskSpec) : Except LifecycleError CrewTask := do
  let id ← lookupKey keyToId spec.key
  let dependsOn ← spec.dependsOn.mapM (lookupKey keyToId)
  let reviewsTaskId ←
    if truthy spec.reviews then (lookupKey keyToId (spec.reviews.getD "")).map some else .ok none
  return { id, projectId
           key := spec.key
           title := spec.title
           status := if dependsOn = [] then .todo else .blocked
           roleRequired := spec.roleRequired
           assigneeMemberId := none
           dependsOn
           isGate := spec.isGate
           reviewsTaskId
           acceptanceCriteria := spec.acceptanceCriteria
           artifact := none
           artifactVersions := []
           reviewComment := none
           blocker := none
           runRef := none
           runStartedAt := none
           createdFromMessageId := none }

/-- `key_to_id`, with the identity that `task_id` gave the last task of each
key. -/
def keyToId (template : SopTemplate) (taskIds : List TaskId) (key : String) : Option TaskId :=
  (((template.tasks.map SopTaskSpec.key).zip taskIds).reverse.find? (fun entry =>
    entry.1 = key)).map Prod.snd

def instantiateProject (projectId : ProjectId) (workspaceId : String) (ownerUserId : MemberId)
    (goalText : String) (template : SopTemplate) (taskIds : List TaskId) :
    Except LifecycleError CrewProject := do
  let tasks ← template.tasks.mapM (instantiateTask projectId (keyToId template taskIds))
  return { id := projectId, workspaceId, ownerUserId, goalText
           sopTemplateId := template.id
           tasks }

namespace CrewProject

variable (project : CrewProject)

def findTask (taskId : TaskId) : Option CrewTask :=
  project.tasks.find? (fun task => task.id = taskId)

def getTask (taskId : TaskId) : Except LifecycleError CrewTask :=
  match project.findTask taskId with
  | some task => .ok task
  | none => .error (.taskNotFound taskId project.id)

/-- Assign to fields of the task that `_get_task` returns. -/
def setTask (taskId : TaskId) (assign : CrewTask → CrewTask) : CrewProject :=
  { project with tasks := updateFirst (fun task => task.id = taskId) assign project.tasks }

def hasDownstreamGate (task : CrewTask) : Bool :=
  project.tasks.any (fun gate => gate.isGate && decide (gate.reviewsTaskId = some task.id))

/-- `status_by_id.get(task_id)`. -/
def statusById (taskId : TaskId) : Option TaskStatus :=
  (project.tasks.reverse.find? (fun task => task.id = taskId)).map CrewTask.status

def satisfying (task : CrewTask) : List TaskStatus :=
  if task.isGate then [.submitted, .done] else [.done]

def depsSatisfied (task : CrewTask) : Bool :=
  task.dependsOn.all (fun dependency =>
    (project.statusById dependency).any (fun status => decide (status ∈ satisfying task)))

def readyStatus (task : CrewTask) : TaskStatus :=
  if truthy task.assigneeMemberId then .assigned else .todo

/-- The rest of the loop of `recompute_readiness`, after the tasks before. -/
def recomputeFrom (before : List CrewTask) : List CrewTask → List CrewTask
  | [] => before
  | task :: rest =>
    if task.status = .blocked ∧
        ({ project with tasks := before ++ task :: rest } : CrewProject).depsSatisfied task then
      recomputeFrom (before ++ [{ task with status := readyStatus task }]) rest
    else recomputeFrom (before ++ [task]) rest

def recomputeReadiness : CrewProject :=
  { project with tasks := project.recomputeFrom [] project.tasks }

/-- The answer is the previous assignee. -/
def assignTask (taskId : TaskId) (memberId : MemberId) :
    Except LifecycleError (Option MemberId × CrewProject) := do
  let task ← project.getTask taskId
  if task.isGate then .error (.gateNotAssignable taskId)
  else if task.status ∉ [.todo, .blocked, .assigned] then
    .error (.cannotAssign taskId task.status)
  else
    return (task.assigneeMemberId, project.setTask taskId (fun task =>
      { task with
        assigneeMemberId := some memberId
        status := if task.status = .todo then .assigned else task.status }))

def startTask (taskId : TaskId) : Except LifecycleError CrewProject := do
  let task ← project.getTask taskId
  if task.isGate then .error (.gateNotStarted taskId)
  else if task.status = .rework then
    return project.setTask taskId (fun task => { task with status := .running })
  else if task.status ≠ .assigned then .error (.cannotStart taskId task.status)
  else if project.depsSatisfied task = false then .error (.dependenciesNotDone taskId)
  else return project.setTask taskId (fun task => { task with status := .running })

def submitArtifact (artifact now : String) (status : TaskStatus) (task : CrewTask) : CrewTask :=
  { task with
    artifactVersions := task.artifactVersions ++
      [{ version := task.artifactVersions.length + 1
         content := artifact
         submittedAt := now }]
    artifact := some artifact
    blocker := none
    status }

def submitTask (taskId : TaskId) (artifact now : String) : Except LifecycleError CrewProject := do
  let task ← project.getTask taskId
  if task.status ∉ [.running, .rework] then .error (.cannotSubmit taskId task.status)
  else if task.isGate then .error (.gateNotSubmitted taskId)
  else
    return (project.setTask taskId (submitArtifact artifact now
      (if project.hasDownstreamGate task then .submitted else .done))).recomputeReadiness

/-- `_get_task(project, gate.reviews_task_id)`, when the gate reviews a task. -/
def setReviewed (gate : CrewTask) (assign : CrewTask → CrewTask) : CrewProject :=
  match gate.reviewsTaskId with
  | some reviewedId => project.setTask reviewedId assign
  | none => project

def checkReviewed (gateTaskId : TaskId) (gate : CrewTask) : Except LifecycleError Unit :=
  match gate.reviewsTaskId with
  | none => .ok ()
  | some reviewedId => do
      let reviewed ← project.getTask reviewedId
      if reviewed.status ≠ .submitted then
        .error (.reviewedNotSubmitted gateTaskId reviewedId reviewed.status)
      else .ok ()

def approve (gateTaskId : TaskId) (gate : CrewTask) (comment : Option String) : CrewProject :=
  ((project.setReviewed gate (fun task => { task with status := .done })).setTask gateTaskId
    (fun task => { task with status := .done, reviewComment := comment })).recomputeReadiness

def reject (gateTaskId : TaskId) (gate : CrewTask) (comment : Option String) : CrewProject :=
  (project.setTask gateTaskId (fun task =>
    { task with status := .blocked, reviewComment := comment })).setReviewed gate (fun task =>
      { task with status := .rework, blocker := comment })

def reviewTask (gateTaskId : TaskId) (approved : Bool) (comment : Option String) :
    Except LifecycleError CrewProject := do
  let gate ← project.getTask gateTaskId
  if gate.isGate = false then .error (.notAGate gateTaskId)
  else if gate.status = .done then .error (.alreadyReviewed gateTaskId)
  else do
    let _ ← project.checkReviewed gateTaskId gate
    if project.depsSatisfied gate = false then .error (.upstreamNotSatisfied gateTaskId)
    else if approved then return project.approve gateTaskId gate comment
    else return project.reject gateTaskId gate comment

end CrewProject

inductive LifecycleCall where
  | assignTask (taskId : TaskId) (memberId : MemberId)
  | startTask (taskId : TaskId)
  | submitTask (taskId : TaskId) (artifact now : String)
  | reviewTask (gateTaskId : TaskId) (approved : Bool) (comment : Option String)
  | recomputeReadiness

def CrewProject.perform (project : CrewProject) :
    LifecycleCall → Except LifecycleError CrewProject
  | .assignTask taskId memberId => (project.assignTask taskId memberId).map Prod.snd
  | .startTask taskId => project.startTask taskId
  | .submitTask taskId artifact now => project.submitTask taskId artifact now
  | .reviewTask gateTaskId approved comment => project.reviewTask gateTaskId approved comment
  | .recomputeReadiness => .ok project.recomputeReadiness

/-- A call that succeeds changes the project. -/
def LifecycleStep (before : CrewProject) (call : LifecycleCall) (after : CrewProject) : Prop :=
  before.perform call = .ok after ∨ (after = before ∧ ∃ error, before.perform call = .error error)

namespace CrewProject

def performOne (project : CrewProject) (call : LifecycleCall) : CrewProject :=
  match project.perform call with
  | .ok after => after
  | .error _ => project

def performAll (project : CrewProject) : List LifecycleCall → CrewProject
  | [] => project
  | call :: rest => (project.performOne call).performAll rest

theorem step_performOne (project : CrewProject) (call : LifecycleCall) :
    LifecycleStep project call (project.performOne call) := by
  unfold LifecycleStep performOne
  cases project.perform call with
  | ok after => exact Or.inl rfl
  | error error => exact Or.inr ⟨rfl, error, rfl⟩

theorem run_performAll (project : CrewProject) (calls : List LifecycleCall) :
    ∃ trace, Run LifecycleStep project trace (project.performAll calls) := by
  induction calls generalizing project with
  | nil => exact ⟨[], .nil project⟩
  | cons call rest ih =>
    obtain ⟨trace, run⟩ := ih (project.performOne call)
    exact ⟨_, .cons (project.step_performOne call) run⟩

end CrewProject

end AnnaAgent.Crew
