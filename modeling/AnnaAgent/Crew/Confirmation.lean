/-
Confirmed drafts: the graph they leave, and confirming them again.

A confirmation creates one task for each title and leaves the tasks that have
started as they were.  The provenance of the new tasks and the audit entry stay
through every later operation, so the same command row is never pushed twice.
-/

import AnnaAgent.Crew.DraftGraph

namespace AnnaAgent.Crew

open Foundation
open Execution (JsonObject ExecutionSnapshot OutboxRow)

namespace CrewProject

variable {project after : CrewProject}

/-- The rows that tasks came from are not forgotten, nor is the audit. -/
structure Records (before after : CrewProject) : Prop where
  sources : ∀ task ∈ before.tasks, ∃ task' ∈ after.tasks,
    task'.createdFromMessageId = task.createdFromMessageId
  audit : before.auditEvents <+: after.auditEvents

theorem Keeps.records (kept : Keeps project after) : Records project after where
  sources task member := by
    obtain ⟨task', member', same⟩ := forall₂_mem_left (forall₂_of_nodes kept.nodes) member
    exact ⟨task', member', congrArg TaskNode.createdFromMessageId same⟩
  audit := kept.audit

theorem alreadyConfirmed_of_task {messageId : String} {task : CrewTask}
    (member : task ∈ project.tasks) (isSource : task.createdFromMessageId = some messageId) :
    project.alreadyConfirmed (some messageId) = true := by
  unfold alreadyConfirmed
  rw [Bool.or_eq_true]
  exact Or.inl (List.any_eq_true.2 ⟨task, member, decide_eq_true isSource⟩)

theorem alreadyConfirmed_of_audit {messageId : String} {event : AuditEvent}
    (member : event ∈ project.auditEvents) (isType : event.type = "crew.channel.tasks_confirmed")
    (isSource : payloadGet event.payload "created_from_message_id" = .str messageId) :
    project.alreadyConfirmed (some messageId) = true := by
  unfold alreadyConfirmed
  rw [Bool.or_eq_true]
  refine Or.inr (List.any_eq_true.2 ⟨event, member, ?_⟩)
  rw [Bool.and_eq_true, isSource]
  exact ⟨decide_eq_true isType, decide_eq_true rfl⟩

theorem Records.alreadyConfirmed {source : Option String} (records : Records project after)
    (confirmed : project.alreadyConfirmed source = true) : after.alreadyConfirmed source = true := by
  cases source with
  | none => cases confirmed
  | some messageId =>
    unfold CrewProject.alreadyConfirmed at confirmed
    rw [Bool.or_eq_true] at confirmed
    rcases confirmed with byTask | byAudit
    · obtain ⟨task, member, isSource⟩ := List.any_eq_true.1 byTask
      obtain ⟨task', member', same⟩ := records.sources task member
      exact alreadyConfirmed_of_task member' (same.trans (of_decide_eq_true isSource))
    · obtain ⟨event, member, isEntry⟩ := List.any_eq_true.1 byAudit
      unfold CrewProject.alreadyConfirmed
      rw [Bool.or_eq_true]
      exact Or.inr (List.any_eq_true.2 ⟨event, records.audit.subset member, isEntry⟩)

def Pushes (confirmation : Confirmation) : Prop :=
  ¬ (confirmation.drafts = [] ∧ confirmation.assignments = [])

def ordered (project : CrewProject) (sequences : List Nat) (confirmation : Confirmation) :
    CrewProject :=
  (orderAll project confirmation.drafts
    { project := project.withDrafts confirmation.drafts sequences confirmation.sourceMessageId
      reordered := []
      skipped := [] }
    (project.newTasks confirmation.drafts sequences confirmation.sourceMessageId)).project

variable {confirmation : Confirmation} {sequences : List Nat} {host : ConfirmHost}

theorem confirmDrafts_quiet (isOwner : confirmation.confirmedBy = project.ownerUserId)
    (settled : ¬ Pushes confirmation ∨ project.alreadyConfirmed confirmation.sourceMessageId = true) :
    project.confirmDrafts host sequences confirmation = .ok (project, []) := by
  unfold confirmDrafts
  dsimp only
  rw [if_neg (not_not.2 isOwner)]
  by_cases isEmpty : confirmation.drafts = [] ∧ confirmation.assignments = []
  · rw [if_pos isEmpty]
  · rw [if_neg isEmpty, if_pos (settled.resolve_left (not_not.2 isEmpty))]

theorem confirmationPayload_source (created : List CrewTask) (source : Option String)
    (confirmedBy : MemberId) (ordering : Ordering) (assigning : Assigning) :
    payloadGet (confirmationPayload created source confirmedBy ordering assigning)
      "created_from_message_id" = .ofOptionStr source := rfl

theorem confirmDrafts_pushes (host : ConfirmHost) (sequences : List Nat)
    (isOwner : confirmation.confirmedBy = project.ownerUserId) (pushes : Pushes confirmation)
    (isNew : project.alreadyConfirmed confirmation.sourceMessageId = false) :
    ∃ after rows, project.confirmDrafts host sequences confirmation = .ok (after, rows) ∧
      Keeps (project.ordered sequences confirmation) after ∧
      ∀ messageId, confirmation.sourceMessageId = some messageId →
        after.alreadyConfirmed (some messageId) = true := by
  unfold confirmDrafts
  dsimp only
  rw [if_neg (not_not.2 isOwner), if_neg pushes, isNew, if_neg Bool.false_ne_true]
  refine ⟨_, _, rfl, ?_, ?_⟩
  · refine Keeps.trans ?_ (adoptSuggestion_keeps _ _ _)
    refine Keeps.trans ?_ (appendEvent_keeps _ _ _)
    have grown : Keeps (project.ordered sequences confirmation)
        (project.grow confirmation.drafts sequences confirmation.sourceMessageId).project :=
      recompute_keeps
    exact grown.trans (assignAll_keeps ⟨_, [], _, []⟩ _)
  · intro messageId isSource
    refine (adoptSuggestion_keeps _ _ _).records.alreadyConfirmed ?_
    refine alreadyConfirmed_of_audit (List.mem_append_right _ List.mem_cons_self) rfl ?_
    rw [isSource]
    exact confirmationPayload_source _ _ _ _ _

theorem confirmDrafts_owner {rows : List CrewRow}
    (confirmed : project.confirmDrafts host sequences confirmation = .ok (after, rows)) :
    confirmation.confirmedBy = project.ownerUserId := by
  by_contra notOwner
  unfold confirmDrafts at confirmed
  dsimp only at confirmed
  rw [if_pos notOwner] at confirmed
  cases confirmed

/-- A task of the grown project and what becomes of it. -/
structure Confirms (task task' : CrewTask) : Prop where
  sameId : task'.id = task.id
  sameTitle : task'.title = task.title
  sameSource : task'.createdFromMessageId = task.createdFromMessageId
  longer : task.dependsOn <+: task'.dependsOn
  started : task.status ∉ insertBeforeStatuses → task'.dependsOn = task.dependsOn

theorem confirms_forall₂ (kept : Keeps (project.ordered sequences confirmation) after) :
    List.Forall₂ Confirms (project.withDrafts confirmation.drafts sequences
      confirmation.sourceMessageId).tasks after.tasks := by
  have reordered : Reordered (project.withDrafts confirmation.drafts sequences
      confirmation.sourceMessageId) (project.ordered sequences confirmation) :=
    orderAll_reordered project confirmation.drafts _ ⟨_, [], []⟩
  refine (forall₂_comp reordered.1 (forall₂_of_nodes kept.nodes)).imp ?_
  rintro task task' ⟨middle, reorders, sameNode⟩
  have sameDependencies : task'.dependsOn = middle.dependsOn := congrArg TaskNode.dependsOn sameNode
  refine ⟨(congrArg TaskNode.id sameNode).trans reorders.sameId,
    (congrArg TaskNode.title sameNode).trans reorders.sameTitle,
    (congrArg TaskNode.createdFromMessageId sameNode).trans reorders.sameSource,
    sameDependencies ▸ reorders.longer, ?_⟩
  intro isStarted
  rcases reorders.stays with ⟨same, _⟩ | ⟨isOpen, _⟩
  · exact sameDependencies.trans same
  · exact absurd isOpen isStarted

theorem pushed_records (kept : Keeps (project.ordered sequences confirmation) after) :
    Records project after where
  sources task member := by
    obtain ⟨task', member', confirms⟩ := forall₂_mem_left (confirms_forall₂ kept)
      (withDrafts_mem.2 (Or.inl member))
    exact ⟨task', member', confirms.sameSource⟩
  audit := by
    have reordered : Reordered (project.withDrafts confirmation.drafts sequences
        confirmation.sourceMessageId) (project.ordered sequences confirmation) :=
      orderAll_reordered project confirmation.drafts _ ⟨_, [], []⟩
    exact (reordered.2 ▸ List.prefix_refl _ : project.auditEvents <+:
      (project.ordered sequences confirmation).auditEvents).trans kept.audit

theorem confirmDrafts_records {rows : List CrewRow}
    (confirmed : project.confirmDrafts host sequences confirmation = .ok (after, rows)) :
    Records project after := by
  have isOwner := confirmDrafts_owner confirmed
  by_cases settled : ¬ Pushes confirmation ∨
      project.alreadyConfirmed confirmation.sourceMessageId = true
  · rw [confirmDrafts_quiet isOwner settled] at confirmed
    cases confirmed
    exact (Keeps.refl _).records
  · rw [not_or, not_not, Bool.not_eq_true] at settled
    obtain ⟨after', rows', isAfter, kept, _⟩ :=
      confirmDrafts_pushes host sequences isOwner settled.1 settled.2
    rw [isAfter] at confirmed
    cases confirmed
    exact pushed_records kept

end CrewProject

inductive ProjectCall where
  | perform (call : LifecycleCall)
  | confirm (confirmation : Confirmation)
  | project (event : OutboxRow)
  | amend

/-- An operation of the service on a stored project: a transition, a
confirmation, the projection of an event, or one that leaves the graph. -/
inductive ProjectStep : CrewProject → ProjectCall → CrewProject → Prop
  | performed {before after : CrewProject} {call : LifecycleCall}
      (step : LifecycleStep before call after) : ProjectStep before (.perform call) after
  | confirmed {before after : CrewProject} {host : ConfirmHost} {sequences : List Nat}
      {confirmation : Confirmation} {rows : List CrewRow}
      (succeeded : before.confirmDrafts host sequences confirmation = .ok (after, rows)) :
      ProjectStep before (.confirm confirmation) after
  | projected {before after : CrewProject} {host : ProjectionHost} {event : OutboxRow}
      {snapshot : ExecutionSnapshot} {taskId : TaskId} {effects : ProjectionEffects}
      (mutated : mutateProjectForExecutionEvent host before event snapshot taskId =
        .ok (after, effects)) : ProjectStep before (.project event) after
  | amended {before after : CrewProject} (kept : before.Keeps after) :
      ProjectStep before .amend after

theorem ProjectStep.records {before after : CrewProject} {call : ProjectCall}
    (step : ProjectStep before call after) : before.Records after := by
  cases step with
  | performed step => exact (CrewProject.step_keeps step).records
  | confirmed succeeded => exact CrewProject.confirmDrafts_records succeeded
  | projected mutated => exact (CrewProject.mutate_keeps mutated).records
  | amended kept => exact kept.records

/-! ### Sound confirmations -/

structure SoundlyConfirmed (before after : CrewProject) (confirmation : Confirmation) : Prop where
  acyclic : Acyclic after.DependsOn
  known : ∀ task ∈ after.tasks, ∀ dependency ∈ task.dependsOn,
    ∃ upstream ∈ after.tasks, upstream.id = dependency
  started : ∀ task ∈ before.tasks, task.status ∉ insertBeforeStatuses →
    ∀ task' ∈ after.tasks, task'.id = task.id → task'.dependsOn = task.dependsOn
  once : before.alreadyConfirmed confirmation.sourceMessageId = false →
    ∀ draft ∈ confirmation.drafts, after.tasks.countP (fun task =>
      decide (task.title = draft.title ∧ task.id ∉ before.tasks.map CrewTask.id)) = 1
  again : ∀ messageId, confirmation.sourceMessageId = some messageId →
    ∀ trace last, Run ProjectStep after trace last →
    ∀ host sequences repeated, repeated.sourceMessageId = some messageId →
      repeated.confirmedBy = last.ownerUserId →
      (CrewProject.Pushes confirmation ∨ ¬ CrewProject.Pushes repeated) →
      last.confirmDrafts host sequences repeated = .ok (last, [])

section Soundness

variable {project after : CrewProject} {sequences : List Nat} {confirmation : Confirmation}

theorem again_of_confirmed (onRecord : ∀ messageId,
      confirmation.sourceMessageId = some messageId → CrewProject.Pushes confirmation →
      after.alreadyConfirmed (some messageId) = true) (messageId : String)
    (isSource : confirmation.sourceMessageId = some messageId)
    (trace : List (Move CrewProject ProjectCall)) (last : CrewProject)
    (run : Run ProjectStep after trace last) (host : ConfirmHost) (sequences : List Nat)
    (repeated : Confirmation) (sameSource : repeated.sourceMessageId = some messageId)
    (isOwner : repeated.confirmedBy = last.ownerUserId)
    (pushes : CrewProject.Pushes confirmation ∨ ¬ CrewProject.Pushes repeated) :
    last.confirmDrafts host sequences repeated = .ok (last, []) := by
  refine CrewProject.confirmDrafts_quiet isOwner ?_
  rcases pushes with pushed | quiet
  · refine Or.inr ?_
    rw [sameSource]
    exact run.invariant (fun project => project.alreadyConfirmed (some messageId) = true)
      (fun _ _ _ step confirmed => step.records.alreadyConfirmed confirmed)
      (onRecord messageId isSource pushed)
  · exact Or.inl quiet

theorem countP_forall₂ {α β : Type} {R : α → β → Prop} {p : α → Bool} {q : β → Bool}
    (agree : ∀ item item', R item item' → p item = q item') {items : List α} {items' : List β}
    (related : List.Forall₂ R items items') : items'.countP q = items.countP p := by
  induction related with
  | nil => rfl
  | cons same _ ih => rw [List.countP_cons, List.countP_cons, ih, agree _ _ same]

theorem countP_title_eq_one {drafts : List TaskDraft} {first : TaskDraft}
    (titles : (drafts.map TaskDraft.title).Nodup) (member : first ∈ drafts) {title : String}
    (isTitle : first.title = title) :
    drafts.countP (fun draft => decide (draft.title = title)) = 1 := by
  have counted := List.count_eq_one_of_mem titles (List.mem_map_of_mem member)
  rw [List.count, List.countP_map, isTitle] at counted
  rw [← counted]
  refine List.countP_congr ?_
  intro draft _
  rw [decide_eq_true_iff, Function.comp_apply, beq_iff_eq]

section

variable (minted : Minted confirmation.drafts sequences)

include minted

theorem newTask_once (fresh : project.Fresh sequences) {draft : TaskDraft}
    (member : draft ∈ confirmation.drafts) :
    (project.withDrafts confirmation.drafts sequences confirmation.sourceMessageId).tasks.countP
      (fun task => decide (task.title = draft.title ∧ task.id ∉ project.tasks.map CrewTask.id)) =
        1 := by
  obtain ⟨first, isFirst, sameTitle⟩ := firstDrafts_of_title [] member List.not_mem_nil
  unfold CrewProject.withDrafts CrewProject.newTasks
  rw [List.countP_append, List.countP_map]
  have noOld : project.tasks.countP (fun task =>
      decide (task.title = draft.title ∧ task.id ∉ project.tasks.map CrewTask.id)) = 0 := by
    refine List.countP_eq_zero.2 ?_
    intro task isOld isCounted
    exact (of_decide_eq_true isCounted).2 (List.mem_map_of_mem isOld)
  rw [noOld, Nat.zero_add, ← countP_title_eq_one (firstDrafts_titles_nodup [] _) isFirst sameTitle]
  refine List.countP_congr ?_
  intro other isOther
  rw [Function.comp_apply, decide_eq_true_iff, decide_eq_true_iff]
  refine and_iff_left ?_
  intro isOld
  obtain ⟨task, isTask, same⟩ := List.mem_map.1 isOld
  exact CrewProject.draftTask_id_fresh minted fresh isOther isTask same

theorem started_of_confirms (fresh : project.Fresh sequences) (distinct : project.DistinctIds)
    (related : List.Forall₂ CrewProject.Confirms (project.withDrafts confirmation.drafts sequences confirmation.sourceMessageId).tasks after.tasks)
    {task task' : CrewTask} (member : task ∈ project.tasks)
    (isStarted : task.status ∉ insertBeforeStatuses) (member' : task' ∈ after.tasks)
    (sameId : task'.id = task.id) : task'.dependsOn = task.dependsOn := by
  obtain ⟨old, isOld, confirms⟩ := forall₂_mem_right related member'
  have same : old = task := by
    refine List.inj_on_of_nodup_map
      (CrewProject.withDrafts_distinct minted fresh distinct) isOld
      (CrewProject.withDrafts_mem.2 (Or.inl member)) ?_
    exact confirms.sameId.symm.trans sameId
  rw [same] at confirms
  exact confirms.started isStarted

theorem once_of_confirms (fresh : project.Fresh sequences)
    (related : List.Forall₂ CrewProject.Confirms (project.withDrafts confirmation.drafts sequences confirmation.sourceMessageId).tasks after.tasks)
    {draft : TaskDraft} (member : draft ∈ confirmation.drafts) :
    after.tasks.countP (fun task =>
      decide (task.title = draft.title ∧ task.id ∉ project.tasks.map CrewTask.id)) = 1 := by
  rw [← newTask_once minted fresh member]
  refine countP_forall₂ ?_ related
  intro task task' confirms
  rw [confirms.sameTitle, confirms.sameId]

theorem acyclic_drafts_of_after
    (related : List.Forall₂ CrewProject.Confirms (project.withDrafts confirmation.drafts sequences confirmation.sourceMessageId).tasks after.tasks)
    (acyclic : Acyclic after.DependsOn) : Acyclic (DraftWaits confirmation.drafts) := by
  intro title loop
  refine acyclic _ (loop.lift (fun title =>
    (titleToId confirmation.drafts sequences title).getD "") ?_)
  intro title dependency waits
  obtain ⟨taskId, dependencyId, isTask, isDependency, task, member, rfl, depends⟩ :=
    CrewProject.withDrafts_waits project confirmation.sourceMessageId minted waits
  obtain ⟨task', member', confirms⟩ := forall₂_mem_left related member
  change after.DependsOn ((titleToId confirmation.drafts sequences title).getD "")
    ((titleToId confirmation.drafts sequences dependency).getD "")
  rw [isTask, isDependency]
  exact ⟨task', member', confirms.sameId, confirms.longer.subset depends⟩

end

theorem ordered_graph (graph : project.Graph) (minted : Minted confirmation.drafts sequences)
    (fresh : project.Fresh sequences) (acyclic : Acyclic (DraftWaits confirmation.drafts)) :
    (project.ordered sequences confirmation).Graph := by
  refine CrewProject.orderAll_graph project confirmation.drafts _
    (CrewProject.withDrafts_graph minted fresh graph acyclic) ?_
  intro task member
  exact List.mem_map_of_mem (List.mem_append_right _ member)

theorem soundly_of_quiet (graph : project.Graph)
    (settled : ¬ CrewProject.Pushes confirmation ∨
      project.alreadyConfirmed confirmation.sourceMessageId = true) :
    SoundlyConfirmed project project confirmation where
  acyclic := graph.acyclic
  known := graph.known
  started task member _ task' member' sameId := by
    rw [List.inj_on_of_nodup_map graph.distinct member' member sameId]
  once isNew draft member := by
    rcases settled with quiet | confirmed
    · rw [(not_not.1 quiet).1] at member
      cases member
    · rw [isNew] at confirmed
      cases confirmed
  again := by
    refine again_of_confirmed ?_
    intro messageId isSource pushes
    rw [← isSource]
    exact settled.resolve_left (not_not.2 pushes)

end Soundness

theorem publication_graph : publicationProject.Graph where
  distinct := by
    unfold CrewProject.DistinctIds
    decide
  known := by decide
  acyclic := by
    refine acyclic_of_rank publicationRank ?_
    rintro taskId dependency ⟨task, member, rfl, depends⟩
    have lowers : ∀ task ∈ publicationProject.tasks, ∀ dependency ∈ task.dependsOn,
        publicationRank dependency < publicationRank task.id := by decide
    exact lowers task member dependency depends

def plainDirectory : ConfirmHost where
  name memberId := memberId
  isAssignableMember memberId := decide (memberId ≠ "")
  isValidSuggestion _ := true
  now := "2026-01-01T00:00:00+00:00"

def outlineDrafts : Confirmation where
  drafts := [{ title := "Outline", role := "writer", insertBefore := ["Draft"] },
    { title := "Summary", role := "writer", dependsOn := ["Outline", "Publish"] }]
  confirmedBy := "owner"
  sourceMessageId := some "proj_1:m7"

theorem outline_acyclic : Acyclic (DraftWaits outlineDrafts.drafts) := by
  refine acyclic_of_rank (fun title => if title = "Summary" then 1 else 0) ?_
  rintro title dependency ⟨draft, member, rfl, depends, _, other, isOther, rfl⟩
  have lowers : ∀ draft ∈ firstDrafts [] outlineDrafts.drafts, ∀ other ∈ outlineDrafts.drafts,
      other.title ∈ draft.dependsOn →
        (if other.title = "Summary" then 1 else 0) < if draft.title = "Summary" then 1 else 0 := by
    decide
  exact lowers draft member other isOther depends

/-- Two drafts that wait for each other. -/
def mutualDrafts : Confirmation where
  drafts := [{ title := "Copy", role := "writer", dependsOn := ["Visual"] },
    { title := "Visual", role := "designer", dependsOn := ["Copy"] }]
  confirmedBy := "owner"
  sourceMessageId := some "proj_1:m7"

end AnnaAgent.Crew
