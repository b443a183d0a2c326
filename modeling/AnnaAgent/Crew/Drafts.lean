/-
Confirming the drafts of a command row (`crew/app/service.py`).

The owner's confirmation turns drafts into tasks, orders existing tasks after
them, and assigns.  The calls run one after the other on the stored project;
the answer keeps that project and the rows written for the channel and for the
inboxes.
-/

import AnnaAgent.Crew.ExecutionProjection

namespace AnnaAgent.Crew

open Execution (Json JsonObject)

structure TaskDraft where
  title : String
  role : String
  dependsOn : List String := []
  acceptance : String := ""
  insertBefore : List String := []
  assigneeId : Option MemberId := none

structure AssignmentProposal where
  taskId : TaskId
  memberId : MemberId

structure Confirmation where
  drafts : List TaskDraft
  confirmedBy : MemberId
  sourceMessageId : Option String := none
  suggestedAssignee : Option MemberId := none
  assignments : List AssignmentProposal := []

/-- What the service takes from its directory, its roster and its clock:
`_name`, `_is_assignable_member` and the check of a suggested assignee (in the
workspace of the project), and `_now()`. -/
structure ConfirmHost where
  name : MemberId → String
  isAssignableMember : MemberId → Bool
  isValidSuggestion : MemberId → Bool
  now : String

inductive CrewRow where
  | channel (body : String) (taskId : Option TaskId) (mentions : List MemberId) (auditRef : String)
      (payload : Option JsonObject)
  | notification (recipient : MemberId) (kind : NotificationKind) (title : String)
      (taskId : Option TaskId) (ref : String)

inductive ConfirmError where
  | permission

def TaskStatus.label : TaskStatus → String
  | .todo => "待办"
  | .assigned => "已指派"
  | .running => "执行中"
  | .submitted => "待审"
  | .inReview => "评审中"
  | .rework => "返工中"
  | .done => "已完成"
  | .blocked => "受阻"

def insertBeforeStatuses : List TaskStatus := [.todo, .blocked]

def assignableStatuses : List TaskStatus := [.todo, .blocked, .assigned]

namespace CrewProject

variable (project : CrewProject)

/-- `{t.id: t.depends_on}`: the last task of each identity. -/
def dependenciesOf (taskId : TaskId) : List TaskId :=
  ((project.tasks.reverse.find? (fun task => task.id = taskId)).map CrewTask.dependsOn).getD []

/-- The tasks that a search has not seen yet. -/
def unseen (seen : List TaskId) : List CrewTask :=
  project.tasks.filter (fun task => task.id ∉ seen)

theorem unseen_cons_le (seen : List TaskId) (taskId : TaskId) :
    (project.unseen (taskId :: seen)).length ≤ (project.unseen seen).length := by
  refine List.Sublist.length_le (List.monotone_filter_right _ ?_)
  intro task isUnseen
  have notSeen := of_decide_eq_true isUnseen
  exact decide_eq_true (fun isSeen => notSeen (List.mem_cons_of_mem _ isSeen))

theorem unseen_cons_lt {seen : List TaskId} {taskId : TaskId} (isNew : taskId ∉ seen)
    (known : project.dependenciesOf taskId ≠ []) :
    (project.unseen (taskId :: seen)).length < (project.unseen seen).length := by
  obtain ⟨task, member, isTask⟩ : ∃ task ∈ project.tasks, task.id = taskId := by
    unfold dependenciesOf at known
    cases found : project.tasks.reverse.find? (fun task => task.id = taskId) with
    | none =>
      rw [found] at known
      exact absurd rfl known
    | some task =>
      have matched := List.find?_some found
      exact ⟨task, List.mem_reverse.1 (List.mem_of_find?_eq_some found), of_decide_eq_true matched⟩
  have isUnseen : task ∈ project.unseen seen :=
    List.mem_filter.2 ⟨member, decide_eq_true (isTask.symm ▸ isNew)⟩
  have narrower : project.unseen (taskId :: seen) =
      (project.unseen seen).filter (fun task => task.id ≠ taskId) := by
    unfold unseen
    rw [List.filter_filter]
    congr 1
    funext other
    rw [Bool.eq_iff_iff, Bool.and_eq_true, decide_eq_true_iff, decide_eq_true_iff,
      decide_eq_true_iff, List.mem_cons, not_or]
  rw [narrower]
  refine List.length_filter_lt_length_iff_exists.2 ⟨task, isUnseen, ?_⟩
  rw [decide_eq_true_iff]
  exact not_not.2 isTask

/-- The loop of `_depends_transitively`; the head of the list is the top of the
stack. -/
def searches (targetId : TaskId) : List TaskId → List TaskId → Bool
  | [], _ => false
  | current :: stack, seen =>
    if current = targetId then true
    else if current ∈ seen then searches targetId stack seen
    else searches targetId ((project.dependenciesOf current).reverse ++ stack) (current :: seen)
termination_by stack seen => ((project.unseen seen).length, stack.length)
decreasing_by
  · exact Prod.Lex.right _ (Nat.lt_succ_self _)
  · rename_i notSeen
    by_cases known : project.dependenciesOf current = []
    · rw [known]
      rcases Nat.lt_or_eq_of_le (project.unseen_cons_le seen current) with less | same
      · exact Prod.Lex.left _ _ less
      · rw [same]
        exact Prod.Lex.right _ (Nat.lt_succ_self _)
    · exact Prod.Lex.left _ _ (project.unseen_cons_lt notSeen known)

def dependsTransitively (startId targetId : TaskId) : Bool :=
  project.searches targetId [startId] []

def taskOfTitle (title : String) : Option CrewTask :=
  project.tasks.reverse.find? (fun task => task.title = title)

def taskTitle (taskId : TaskId) : String :=
  match project.findTask taskId with
  | some task => task.title
  | none => taskId

/-- `_append_event`, with the reference to the new entry. -/
def appendEvent (now type : String) (payload : JsonObject) : CrewProject × String :=
  let audited := { project with
    auditEvents := project.auditEvents ++ [{ type, payload, createdAt := now }] }
  (audited, "#a" ++ toString audited.auditEvents.length)

def assign (host : ConfirmHost) (taskId : TaskId) (memberId : MemberId) :
    Except LifecycleError (CrewProject × List CrewRow) := do
  let (previous, assigned) ← project.assignTask taskId memberId
  if previous = some memberId then return (project, [])
  else
    let title := "“" ++ assigned.taskTitle taskId ++ "”"
    let toMember := fun ref => CrewRow.notification memberId .assigned (title ++ "已派给你。")
      (some taskId) ref
    match previous with
    | some previous =>
      let (audited, auditRef) := assigned.appendEvent host.now "crew.task.assign"
        [("task_id", .str taskId), ("member_id", .str memberId),
          ("previous_member_id", .str previous), ("reassigned", .bool true)]
      return (audited,
        [.channel (title ++ "已改派给 @" ++ host.name memberId ++ "（原 @" ++ host.name previous ++
            "）。") (some taskId) [memberId, previous] auditRef none,
          toMember auditRef,
          .notification previous .assigned (title ++ "已转派给 @" ++ host.name memberId ++ "。")
            (some taskId) auditRef])
    | none =>
      let (audited, auditRef) := assigned.appendEvent host.now "crew.task.assign"
        [("task_id", .str taskId), ("member_id", .str memberId)]
      return (audited,
        [.channel (title ++ "已派给 @" ++ host.name memberId ++ "。") (some taskId) [memberId]
            auditRef none,
          toMember auditRef])

/-! ### Drafts -/

/-- A task or the audit points back to the row. -/
def alreadyConfirmed (sourceMessageId : Option String) : Bool :=
  match sourceMessageId with
  | none => false
  | some messageId =>
    project.tasks.any (fun task => decide (task.createdFromMessageId = some messageId)) ||
      project.auditEvents.any (fun event =>
        decide (event.type = "crew.channel.tasks_confirmed") &&
          match payloadGet event.payload "created_from_message_id" with
          | .str source => decide (source = messageId)
          | _ => false)

end CrewProject

/-- The sequence minted for the last draft of a title; `sequences` are the
answers of `next_task_sequence`, one for each draft. -/
def sequenceOf (drafts : List TaskDraft) (sequences : List Nat) (title : String) : Option Nat :=
  (((drafts.map TaskDraft.title).zip sequences).reverse.find? (fun entry =>
    entry.1 = title)).map Prod.snd

def channelTaskId (sequence : Nat) : TaskId := "task_" ++ toString sequence ++ "_ch"

def titleToId (drafts : List TaskDraft) (sequences : List Nat) (title : String) : Option TaskId :=
  (sequenceOf drafts sequences title).map channelTaskId

def firstDrafts (seen : List String) : List TaskDraft → List TaskDraft
  | [] => []
  | draft :: rest =>
    if draft.title ∈ seen then firstDrafts seen rest
    else draft :: firstDrafts (draft.title :: seen) rest

def draftOfTitle (drafts : List TaskDraft) (title : String) : Option TaskDraft :=
  drafts.reverse.find? (fun draft => draft.title = title)

namespace CrewProject

variable (project : CrewProject)

/-- What the dependency of a draft refers to: another draft, or an existing
task. -/
def resolveDependency (drafts : List TaskDraft) (sequences : List Nat) (title dependency : String) :
    Option TaskId :=
  match titleToId drafts sequences dependency with
  | some id =>
    if some id ≠ titleToId drafts sequences title then some id
    else (project.taskOfTitle dependency).map CrewTask.id
  | none => (project.taskOfTitle dependency).map CrewTask.id

def draftTask (drafts : List TaskDraft) (sequences : List Nat) (sourceMessageId : Option String)
    (draft : TaskDraft) : CrewTask :=
  let dependsOn := draft.dependsOn.filterMap (project.resolveDependency drafts sequences draft.title)
  { id := (titleToId drafts sequences draft.title).getD ""
    projectId := project.id
    key := "ch_" ++ toString ((sequenceOf drafts sequences draft.title).getD 0)
    title := draft.title
    status := if dependsOn = [] then .todo else .blocked
    roleRequired := draft.role
    assigneeMemberId := none
    dependsOn
    isGate := false
    reviewsTaskId := none
    acceptanceCriteria := if draft.acceptance = "" then none else some draft.acceptance
    artifact := none
    artifactVersions := []
    reviewComment := none
    blocker := none
    runRef := none
    runStartedAt := none
    origin := "channel"
    createdFromMessageId := sourceMessageId }

def newTasks (drafts : List TaskDraft) (sequences : List Nat) (sourceMessageId : Option String) :
    List CrewTask :=
  (firstDrafts [] drafts).map (project.draftTask drafts sequences sourceMessageId)

/-- The project while `insert_before` is applied, with the targets that wait
for a new task and the titles that are skipped. -/
structure Ordering where
  project : CrewProject
  reordered : List (CrewTask × CrewTask)
  skipped : List (String × String)

def orderBefore (existing : CrewProject) (newTask : CrewTask) (ordering : Ordering)
    (targetTitle : String) : Ordering :=
  let skip := fun reason =>
    { ordering with skipped := ordering.skipped ++ [(targetTitle, reason)] }
  match existing.taskOfTitle targetTitle with
  | none => skip "未找到"
  | some known =>
    match ordering.project.findTask known.id with
    | none => skip "未找到"
    | some target =>
      if target.status ∉ insertBeforeStatuses then skip target.status.label
      else if ordering.project.dependsTransitively newTask.id target.id then
        skip "会形成循环依赖"
      else if newTask.id ∈ target.dependsOn then ordering
      else
        { ordering with
          project := ordering.project.setTask target.id (fun task =>
            { task with dependsOn := task.dependsOn ++ [newTask.id], status := .blocked })
          reordered := ordering.reordered ++ [(target, newTask)] }

def insertTitles (drafts : List TaskDraft) (newTask : CrewTask) : List String :=
  ((draftOfTitle drafts newTask.title).map TaskDraft.insertBefore).getD []

def orderAll (existing : CrewProject) (drafts : List TaskDraft) (ordering : Ordering) :
    List CrewTask → Ordering
  | [] => ordering
  | newTask :: rest =>
    orderAll existing drafts
      ((insertTitles drafts newTask).foldl (orderBefore existing newTask) ordering) rest

def grow (drafts : List TaskDraft) (sequences : List Nat) (sourceMessageId : Option String) :
    Ordering :=
  let created := project.newTasks drafts sequences sourceMessageId
  let ordered := orderAll project drafts
    { project := { project with tasks := project.tasks ++ created }
      reordered := []
      skipped := [] } created
  { ordered with project := ordered.project.recomputeReadiness }

/-- The assignments that are made, and those that are not: title, member and
reason. -/
structure AssignmentPlan where
  planned : List (TaskId × MemberId) := []
  skipped : List (String × MemberId × String) := []

def planOne (host : ConfirmHost) (plan : AssignmentPlan) (request : TaskId × MemberId) :
    AssignmentPlan :=
  let skip := fun title reason =>
    { plan with skipped := plan.skipped ++ [(title, request.2, reason)] }
  match project.findTask request.1 with
  | none => skip request.1 "任务不存在"
  | some task =>
    if host.isAssignableMember request.2 = false then skip task.title "成员无效"
    else if task.isGate then skip task.title "评审门不可指派"
    else if task.status ∉ assignableStatuses then skip task.title task.status.label
    else if plan.planned.any (fun planned => decide (planned.1 = request.1)) then
      skip task.title "重复指派"
    else { plan with planned := plan.planned ++ [request] }

def requestedAssignments (drafts : List TaskDraft) (created : List CrewTask)
    (assignments : List AssignmentProposal) : List (TaskId × MemberId) :=
  created.filterMap (fun task =>
    match ((draftOfTitle drafts task.title).bind TaskDraft.assigneeId) with
    | some memberId => if memberId = "" then none else some (task.id, memberId)
    | none => none) ++
  assignments.map (fun assignment => (assignment.taskId, assignment.memberId))

/-- The project while planned assignments are made. -/
structure Assigning where
  project : CrewProject
  applied : List (TaskId × MemberId)
  skipped : List (String × MemberId × String)
  rows : List CrewRow

def assignPlanned (host : ConfirmHost) (assigning : Assigning) (planned : TaskId × MemberId) :
    Assigning :=
  match assigning.project.assign host planned.1 planned.2 with
  | .ok (project, rows) =>
    { assigning with
      project
      applied := assigning.applied ++ [planned]
      rows := assigning.rows ++ rows }
  | .error _ =>
    { assigning with
      skipped := assigning.skipped ++
        [(assigning.project.taskTitle planned.1, planned.2, "状态已变化")] }

def confirmationPayload (created : List CrewTask) (sourceMessageId : Option String)
    (confirmedBy : MemberId) (ordering : Ordering) (assigning : Assigning) : JsonObject :=
  [("count", .num created.length),
    ("task_ids", .arr (created.map (fun task => .str task.id))),
    ("created_from_message_id", .ofOptionStr sourceMessageId),
    ("confirmed_by", .str confirmedBy),
    ("insert_before", .arr (ordering.reordered.map (fun (target, newTask) =>
      .obj [("task_id", .str target.id), ("waits_for", .str newTask.id)]))),
    ("assignments", .arr (assigning.applied.map (fun (taskId, memberId) =>
      .obj [("task_id", .str taskId), ("member_id", .str memberId)]))),
    ("skipped", .arr (ordering.skipped.map (fun (title, reason) =>
        .obj [("kind", .str "insert_before"), ("title", .str title), ("reason", .str reason)]) ++
      assigning.skipped.map (fun (title, memberId, reason) =>
        .obj [("kind", .str "assignment"), ("title", .str title), ("member_id", .str memberId),
          ("reason", .str reason)])))]

def confirmationBody (host : ConfirmHost) (created : List CrewTask) (ordering : Ordering)
    (assigning : Assigning) : String :=
  (if created = [] then "已确认 Anna 提议。"
    else "已确认下推 " ++ toString created.length ++ " 项任务：" ++
      "、".intercalate (created.map (fun task => "“" ++ task.title ++ "”")) ++ "。") ++
  (if ordering.reordered = [] then ""
    else "顺序调整：" ++ "、".intercalate (ordering.reordered.map (fun (target, newTask) =>
      "“" ++ target.title ++ "”需等待“" ++ newTask.title ++ "”完成")) ++ "。") ++
  (if ordering.skipped = [] then ""
    else "未调整顺序：" ++ "、".intercalate (ordering.skipped.map (fun (title, reason) =>
      "“" ++ title ++ "”（" ++ reason ++ "）")) ++ "。") ++
  (if assigning.applied = [] then ""
    else "已按提议指派 " ++ toString assigning.applied.length ++ " 项。") ++
  (if assigning.skipped = [] then ""
    else "未执行指派：" ++ "、".intercalate (assigning.skipped.map (fun (title, memberId, reason) =>
      "“" ++ title ++ "”→@" ++ host.name memberId ++ "（" ++ reason ++ "）")) ++ "。")

/-- The suggested member takes the first new task, when its draft names no
assignee of its own. -/
def adoptSuggestion (host : ConfirmHost) (drafts : List TaskDraft) (created : List CrewTask)
    (suggestedAssignee : Option MemberId) : CrewProject × List CrewRow :=
  match suggestedAssignee, created with
  | some memberId, first :: _ =>
    if memberId = "" ∨ truthy ((draftOfTitle drafts first.title).bind TaskDraft.assigneeId) ∨
        host.isValidSuggestion memberId = false then (project, [])
    else match project.assign host first.id memberId with
      | .ok outcome => outcome
      | .error _ => (project, [])
  | _, _ => (project, [])

def confirmDrafts (host : ConfirmHost) (sequences : List Nat) (confirmation : Confirmation) :
    Except ConfirmError (CrewProject × List CrewRow) :=
  let drafts := confirmation.drafts
  let source := confirmation.sourceMessageId
  if confirmation.confirmedBy ≠ project.ownerUserId then .error .permission
  else if drafts = [] ∧ confirmation.assignments = [] then .ok (project, [])
  else if project.alreadyConfirmed source then .ok (project, [])
  else
    let created := project.newTasks drafts sequences source
    let ordering := project.grow drafts sequences source
    let plan := (requestedAssignments drafts created confirmation.assignments).foldl
      (ordering.project.planOne host) {}
    let assigning := plan.planned.foldl (assignPlanned host)
      { project := ordering.project, applied := [], skipped := plan.skipped, rows := [] }
    let (audited, auditRef) := assigning.project.appendEvent host.now
      "crew.channel.tasks_confirmed"
      (confirmationPayload created source confirmation.confirmedBy ordering assigning)
    let row := CrewRow.channel (confirmationBody host created ordering assigning) none [] auditRef
      (source.map (fun messageId => [("confirms_message_id", .str messageId)]))
    let grown := if created = [] then []
      else [CrewRow.notification audited.ownerUserId .grown
        (toString created.length ++ " 项任务已由频道生长并下推。") none auditRef]
    let (adopted, rows) := audited.adoptSuggestion host drafts created
      confirmation.suggestedAssignee
    .ok (adopted, assigning.rows ++ row :: grown ++ rows)

end CrewProject

end AnnaAgent.Crew
