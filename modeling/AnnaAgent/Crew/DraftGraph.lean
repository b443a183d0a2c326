/-
The task graph after drafts are confirmed.

Of the three kinds of edges that a confirmation adds, the ones from a draft to
another draft are never checked.  The graph stays sound exactly when the drafts
do not wait for each other in a cycle.
-/

import AnnaAgent.Crew.Provenance
import AnnaAgent.Crew.Decomposition

namespace AnnaAgent.Crew

open Foundation

theorem channelTaskId_injective {first second : Nat}
    (same : channelTaskId first = channelTaskId second) : first = second := by
  unfold channelTaskId at same
  exact Nat.repr_inj.1 ((String.append_right_inj _).1 ((String.append_left_inj _).1 same))

variable {draft : TaskDraft} {taskId : TaskId}

section Minting

variable {drafts : List TaskDraft} {sequences : List Nat}

/-- The answers of `next_task_sequence` to one confirmation. -/
structure Minted (drafts : List TaskDraft) (sequences : List Nat) : Prop where
  length : sequences.length = drafts.length
  distinct : sequences.Nodup

variable {title : String}
variable {sequence : Nat}

theorem sequenceOf_mem (isSequence : sequenceOf drafts sequences title = some sequence) :
    (title, sequence) ∈ (drafts.map TaskDraft.title).zip sequences := by
  unfold sequenceOf at isSequence
  obtain ⟨entry, found, rfl⟩ := Option.map_eq_some_iff.1 isSequence
  have matched := List.find?_some found
  have isTitle : entry.1 = title := of_decide_eq_true matched
  rw [← isTitle]
  exact List.mem_reverse.1 (List.mem_of_find?_eq_some found)

theorem sequenceOf_title (isSequence : sequenceOf drafts sequences title = some sequence) :
    ∃ draft ∈ drafts, draft.title = title :=
  List.mem_map.1 (List.of_mem_zip (sequenceOf_mem isSequence)).1

theorem sequenceOf_injective (minted : Minted drafts sequences) {first second : String}
    (isFirst : sequenceOf drafts sequences first = some sequence)
    (isSecond : sequenceOf drafts sequences second = some sequence) : first = second := by
  have distinct : (((drafts.map TaskDraft.title).zip sequences).map Prod.snd).Nodup := by
    rw [List.map_snd_zip (by rw [minted.length, List.length_map])]
    exact minted.distinct
  exact congrArg Prod.fst (List.inj_on_of_nodup_map distinct (sequenceOf_mem isFirst)
    (sequenceOf_mem isSecond) rfl)

theorem sequenceOf_of_title (minted : Minted drafts sequences) (member : draft ∈ drafts) :
    ∃ sequence ∈ sequences, sequenceOf drafts sequences draft.title = some sequence := by
  have isTitle : draft.title ∈
      ((drafts.map TaskDraft.title).zip sequences).map Prod.fst := by
    rw [List.map_fst_zip (by rw [minted.length, List.length_map])]
    exact List.mem_map_of_mem member
  obtain ⟨entry, isEntry, sameTitle⟩ := List.mem_map.1 isTitle
  cases found : ((drafts.map TaskDraft.title).zip sequences).reverse.find? (fun entry =>
      entry.1 = draft.title) with
  | none =>
    have missing := List.find?_eq_none.1 found entry (List.mem_reverse.2 isEntry)
    exact absurd (decide_eq_true sameTitle) missing
  | some other =>
    refine ⟨other.2, ?_, ?_⟩
    · exact (List.of_mem_zip (List.mem_reverse.1 (List.mem_of_find?_eq_some found))).2
    · unfold sequenceOf
      rw [found]
      rfl

theorem titleToId_injective (minted : Minted drafts sequences) {first second : String}
    (isFirst : titleToId drafts sequences first = some taskId)
    (isSecond : titleToId drafts sequences second = some taskId) : first = second := by
  obtain ⟨sequence, ofFirst, rfl⟩ := Option.map_eq_some_iff.1 isFirst
  obtain ⟨sequence', ofSecond, same⟩ := Option.map_eq_some_iff.1 isSecond
  rw [channelTaskId_injective same] at ofSecond
  exact sequenceOf_injective minted ofFirst ofSecond

theorem titleToId_of_title (minted : Minted drafts sequences) (member : draft ∈ drafts) :
    ∃ sequence ∈ sequences,
      titleToId drafts sequences draft.title = some (channelTaskId sequence) := by
  obtain ⟨sequence, isAnswer, isSequence⟩ := sequenceOf_of_title minted member
  refine ⟨sequence, isAnswer, ?_⟩
  unfold titleToId
  rw [isSequence]
  rfl

theorem titleToId_title (isTask : titleToId drafts sequences title = some taskId) :
    ∃ draft ∈ drafts, draft.title = title := by
  obtain ⟨sequence, isSequence, _⟩ := Option.map_eq_some_iff.1 isTask
  exact sequenceOf_title isSequence

theorem titleToId_sequence (isTask : titleToId drafts sequences title = some taskId) :
    ∃ sequence ∈ sequences, taskId = channelTaskId sequence := by
  obtain ⟨sequence, isSequence, rfl⟩ := Option.map_eq_some_iff.1 isTask
  exact ⟨sequence, (List.of_mem_zip (sequenceOf_mem isSequence)).2, rfl⟩

end Minting

theorem firstDrafts_mem {seen : List String} {drafts : List TaskDraft}
    (member : draft ∈ firstDrafts seen drafts) : draft ∈ drafts ∧ draft.title ∉ seen := by
  induction drafts generalizing seen with
  | nil => cases member
  | cons first rest ih =>
    rw [firstDrafts] at member
    by_cases isSeen : first.title ∈ seen
    · rw [if_pos isSeen] at member
      exact ⟨List.mem_cons_of_mem _ (ih member).1, (ih member).2⟩
    · rw [if_neg isSeen] at member
      rcases List.mem_cons.1 member with rfl | later
      · exact ⟨List.mem_cons_self, isSeen⟩
      · have fresh := (ih later).2
        exact ⟨List.mem_cons_of_mem _ (ih later).1, fun old => fresh (List.mem_cons_of_mem _ old)⟩

theorem firstDrafts_titles_nodup (seen : List String) (drafts : List TaskDraft) :
    ((firstDrafts seen drafts).map TaskDraft.title).Nodup := by
  induction drafts generalizing seen with
  | nil => exact List.nodup_nil
  | cons first rest ih =>
    rw [firstDrafts]
    by_cases isSeen : first.title ∈ seen
    · rw [if_pos isSeen]
      exact ih seen
    · rw [if_neg isSeen, List.map_cons]
      refine List.nodup_cons.2 ⟨?_, ih _⟩
      intro repeated
      obtain ⟨draft, member, sameTitle⟩ := List.mem_map.1 repeated
      exact (firstDrafts_mem member).2 (sameTitle ▸ List.mem_cons_self)

theorem firstDrafts_of_title (seen : List String) {drafts : List TaskDraft}
    (member : draft ∈ drafts) (isNew : draft.title ∉ seen) :
    ∃ first ∈ firstDrafts seen drafts, first.title = draft.title := by
  induction drafts generalizing seen with
  | nil => cases member
  | cons first rest ih =>
    rw [firstDrafts]
    by_cases isSeen : first.title ∈ seen
    · rw [if_pos isSeen]
      rcases List.mem_cons.1 member with rfl | later
      · exact absurd isSeen isNew
      · exact ih seen later isNew
    · rw [if_neg isSeen]
      by_cases isFirst : draft.title = first.title
      · exact ⟨first, List.mem_cons_self, isFirst.symm⟩
      · rcases List.mem_cons.1 member with rfl | later
        · exact absurd rfl isFirst
        · obtain ⟨other, isOther, sameTitle⟩ := ih (first.title :: seen) later
            (fun old => (List.mem_cons.1 old).elim isFirst isNew)
          exact ⟨other, List.mem_cons_of_mem _ isOther, sameTitle⟩

def DraftWaits (drafts : List TaskDraft) (title dependency : String) : Prop :=
  ∃ draft ∈ firstDrafts [] drafts, draft.title = title ∧ dependency ∈ draft.dependsOn ∧
    dependency ≠ title ∧ ∃ other ∈ drafts, other.title = dependency

namespace CrewProject

variable {project : CrewProject}

theorem dependsOn_mem (distinct : project.DistinctIds) {dependency : TaskId}
    (depends : project.DependsOn taskId dependency) :
    dependency ∈ project.dependenciesOf taskId := by
  obtain ⟨task, member, rfl, isDependency⟩ := depends
  have reversed : (project.tasks.reverse.map CrewTask.id).Nodup := by
    rw [List.map_reverse, List.nodup_reverse]
    exact distinct
  have found : project.tasks.reverse.find? (fun other => other.id = task.id) = some task :=
    find?_of_distinct reversed (List.mem_reverse.2 member)
  unfold dependenciesOf
  rw [found]
  exact isDependency

theorem searches_closed {targetId : TaskId} (stack seen : List TaskId)
    (ended : project.searches targetId stack seen = false) (clean : targetId ∉ seen)
    (closed : ∀ taskId ∈ seen, ∀ dependency ∈ project.dependenciesOf taskId,
      dependency ∈ seen ∨ dependency ∈ stack) :
    ∃ reached : List TaskId, stack ⊆ reached ∧ seen ⊆ reached ∧ targetId ∉ reached ∧
      ∀ taskId ∈ reached, ∀ dependency ∈ project.dependenciesOf taskId, dependency ∈ reached := by
  induction stack, seen using CrewProject.searches.induct project targetId with
  | case1 seen =>
    refine ⟨seen, List.nil_subset _, fun _ isSeen => isSeen, clean, ?_⟩
    intro taskId isSeen dependency isDependency
    rcases closed taskId isSeen dependency isDependency with old | impossible
    · exact old
    · cases impossible
  | case2 stack seen =>
    rw [searches, if_pos rfl] at ended
    cases ended
  | case3 current stack seen notTarget isSeen ih =>
    rw [searches, if_neg notTarget, if_pos isSeen] at ended
    have closedHere : ∀ taskId ∈ seen, ∀ dependency ∈ project.dependenciesOf taskId,
        dependency ∈ seen ∨ dependency ∈ stack := by
      intro taskId old dependency isDependency
      rcases closed taskId old dependency isDependency with known | waiting
      · exact Or.inl known
      · rcases List.mem_cons.1 waiting with rfl | later
        · exact Or.inl isSeen
        · exact Or.inr later
    obtain ⟨reached, ofStack, ofSeen, missed, follows⟩ := ih ended clean closedHere
    refine ⟨reached, ?_, ofSeen, missed, follows⟩
    exact List.cons_subset.2 ⟨ofSeen isSeen, ofStack⟩
  | case4 current stack seen notTarget notSeen ih =>
    rw [searches, if_neg notTarget, if_neg notSeen] at ended
    have cleanHere : targetId ∉ current :: seen := by
      intro isTarget
      rcases List.mem_cons.1 isTarget with same | old
      · exact notTarget same.symm
      · exact clean old
    have closedHere : ∀ taskId ∈ current :: seen,
        ∀ dependency ∈ project.dependenciesOf taskId, dependency ∈ current :: seen ∨
          dependency ∈ (project.dependenciesOf current).reverse ++ stack := by
      intro taskId isSeen dependency isDependency
      rcases List.mem_cons.1 isSeen with rfl | old
      · exact Or.inr (List.mem_append_left _ (List.mem_reverse.2 isDependency))
      · rcases closed taskId old dependency isDependency with known | waiting
        · exact Or.inl (List.mem_cons_of_mem _ known)
        · rcases List.mem_cons.1 waiting with rfl | later
          · exact Or.inl List.mem_cons_self
          · exact Or.inr (List.mem_append_right _ later)
    obtain ⟨reached, ofStack, ofSeen, missed, follows⟩ := ih ended cleanHere closedHere
    refine ⟨reached, ?_, (List.cons_subset.1 ofSeen).2, missed, follows⟩
    exact List.cons_subset.2 ⟨(List.cons_subset.1 ofSeen).1, (List.append_subset.1 ofStack).2⟩

theorem unreached_of_search (distinct : project.DistinctIds) {startId targetId : TaskId}
    (ended : project.dependsTransitively startId targetId = false) :
    ¬ Relation.ReflTransGen project.DependsOn startId targetId := by
  intro path
  obtain ⟨reached, ofStack, _, missed, follows⟩ :=
    searches_closed [startId] [] ended List.not_mem_nil nofun
  have leads : ∀ {taskId}, Relation.ReflTransGen project.DependsOn startId taskId →
      taskId ∈ reached := by
    intro taskId path
    induction path with
    | refl => exact ofStack List.mem_cons_self
    | tail _ edge ih => exact follows _ ih _ (dependsOn_mem distinct edge)
  exact missed (leads path)

structure Graph (project : CrewProject) : Prop where
  distinct : project.DistinctIds
  known : ∀ task ∈ project.tasks, ∀ dependency ∈ task.dependsOn,
    ∃ upstream ∈ project.tasks, upstream.id = dependency
  acyclic : Acyclic project.DependsOn

def WaitsToo (targetId newId : TaskId) (task task' : CrewTask) : Prop :=
  task'.id = task.id ∧ (task'.dependsOn = task.dependsOn ∨
    task.id = targetId ∧ task'.dependsOn = task.dependsOn ++ [newId])

variable {newTask : CrewTask}

theorem Graph.order (graph : project.Graph) {target : CrewTask}
    (found : project.findTask target.id = some target)
    (isNew : newTask.id ∈ project.tasks.map CrewTask.id)
    (ended : project.dependsTransitively newTask.id target.id = false) :
    (project.setTask target.id (fun task =>
      { task with dependsOn := task.dependsOn ++ [newTask.id], status := .blocked })).Graph := by
  have related : List.Forall₂ (WaitsToo target.id newTask.id) project.tasks
      (project.setTask target.id (fun task =>
        { task with dependsOn := task.dependsOn ++ [newTask.id], status := .blocked })).tasks := by
    refine setTask_forall₂ (fun task => ⟨rfl, Or.inl rfl⟩) ?_
    intro task isTask
    rw [found] at isTask
    cases isTask
    exact ⟨rfl, Or.inr ⟨rfl, rfl⟩⟩
  have stays : ∀ dependency, (∃ upstream ∈ project.tasks, upstream.id = dependency) →
      ∃ upstream ∈ (project.setTask target.id (fun task =>
        { task with dependsOn := task.dependsOn ++ [newTask.id], status := .blocked })).tasks,
        upstream.id = dependency := by
    rintro dependency ⟨upstream, member, rfl⟩
    obtain ⟨upstream', member', waits⟩ := forall₂_mem_left related member
    exact ⟨upstream', member', waits.1⟩
  refine ⟨graph.distinct.related (fun _ _ waits => waits.1) related, ?_, ?_⟩
  · intro task' member' dependency isDependency
    obtain ⟨task, member, _, sameDependencies | ⟨_, longer⟩⟩ := forall₂_mem_right related member'
    · rw [sameDependencies] at isDependency
      exact stays dependency (graph.known task member dependency isDependency)
    · rw [longer] at isDependency
      rcases List.mem_append.1 isDependency with old | isLast
      · exact stays dependency (graph.known task member dependency old)
      · rw [List.mem_singleton.1 isLast]
        exact stays newTask.id (List.mem_map.1 isNew)
  · refine graph.acyclic.insert ?_ (unreached_of_search graph.distinct ended)
    rintro taskId dependency ⟨task', member', rfl, isDependency⟩
    obtain ⟨task, member, sameId, sameDependencies | ⟨isTarget, longer⟩⟩ :=
      forall₂_mem_right related member'
    · rw [sameDependencies] at isDependency
      exact Or.inl ⟨task, member, sameId.symm, isDependency⟩
    · rw [longer] at isDependency
      rcases List.mem_append.1 isDependency with old | isLast
      · exact Or.inl ⟨task, member, sameId.symm, old⟩
      · exact Or.inr ⟨sameId.trans isTarget, List.mem_singleton.1 isLast⟩

variable {after : CrewProject}

theorem forall₂_of_nodes (same : after.nodes = project.nodes) :
    List.Forall₂ (fun task task' => task'.node = task.node) project.tasks after.tasks := by
  unfold nodes at same
  rw [← List.forall₂_eq_eq_eq, List.forall₂_map_left_iff, List.forall₂_map_right_iff] at same
  exact same.flip

theorem dependsOn_of_nodes (same : after.nodes = project.nodes) {dependency : TaskId}
    (depends : after.DependsOn taskId dependency) :
    project.DependsOn taskId dependency := by
  obtain ⟨task', member', rfl, isDependency⟩ := depends
  obtain ⟨task, member, sameNode⟩ := forall₂_mem_right (forall₂_of_nodes same) member'
  have sameDependencies : task'.dependsOn = task.dependsOn := congrArg TaskNode.dependsOn sameNode
  rw [sameDependencies] at isDependency
  exact ⟨task, member, (congrArg TaskNode.id sameNode).symm, isDependency⟩

theorem Graph.of_nodes (graph : project.Graph) (same : after.nodes = project.nodes) :
    after.Graph := by
  have related := forall₂_of_nodes same
  refine ⟨graph.distinct.related (fun _ _ sameNode => congrArg TaskNode.id sameNode) related,
    ?_, ?_⟩
  · intro task' member' dependency isDependency
    obtain ⟨task, member, sameNode⟩ := forall₂_mem_right related member'
    have sameDependencies : task'.dependsOn = task.dependsOn := congrArg TaskNode.dependsOn sameNode
    rw [sameDependencies] at isDependency
    obtain ⟨upstream, isUpstream, rfl⟩ := graph.known task member dependency isDependency
    obtain ⟨upstream', isUpstream', sameUpstream⟩ := forall₂_mem_left related isUpstream
    exact ⟨upstream', isUpstream', congrArg TaskNode.id sameUpstream⟩
  · exact graph.acyclic.mono (fun _ _ depends => dependsOn_of_nodes same depends)

/-! ### New tasks -/

section NewTasks

variable {drafts : List TaskDraft} {sequences : List Nat} {sourceMessageId : Option String}

/-- No task of the project has an identity minted for the drafts. -/
def Fresh (project : CrewProject) (sequences : List Nat) : Prop :=
  ∀ sequence ∈ sequences, ∀ task ∈ project.tasks, task.id ≠ channelTaskId sequence

theorem draftTask_id (project : CrewProject) (sourceMessageId : Option String)
    (minted : Minted drafts sequences) (member : draft ∈ firstDrafts [] drafts) :
    titleToId drafts sequences draft.title =
      some (project.draftTask drafts sequences sourceMessageId draft).id := by
  obtain ⟨sequence, _, isTask⟩ := titleToId_of_title minted (firstDrafts_mem member).1
  unfold draftTask
  dsimp only
  rw [isTask]
  rfl

theorem draftTask_id_fresh (minted : Minted drafts sequences) (fresh : project.Fresh sequences)
    (member : draft ∈ firstDrafts [] drafts) {task : CrewTask} (isOld : task ∈ project.tasks) :
    task.id ≠ (project.draftTask drafts sequences sourceMessageId draft).id := by
  obtain ⟨sequence, isAnswer, same⟩ := titleToId_sequence
    (draftTask_id project sourceMessageId minted member)
  rw [same]
  exact fresh sequence isAnswer task isOld

variable {dependency : String} {title : String}

theorem resolveDependency_cases
    (resolved : project.resolveDependency drafts sequences title dependency = some taskId) :
    titleToId drafts sequences dependency = some taskId ∧ dependency ≠ title ∨
      ∃ task ∈ project.tasks, task.id = taskId := by
  have existing : (project.taskOfTitle dependency).map CrewTask.id = some taskId →
      ∃ task ∈ project.tasks, task.id = taskId := by
    intro isExisting
    obtain ⟨task, found, rfl⟩ := Option.map_eq_some_iff.1 isExisting
    exact ⟨task, List.mem_reverse.1 (List.mem_of_find?_eq_some found), rfl⟩
  unfold resolveDependency at resolved
  cases isDraft : titleToId drafts sequences dependency with
  | none =>
    rw [isDraft] at resolved
    exact Or.inr (existing resolved)
  | some id =>
    rw [isDraft] at resolved
    dsimp only at resolved
    by_cases isOther : some id ≠ titleToId drafts sequences title
    · rw [if_pos isOther] at resolved
      cases resolved
      refine Or.inl ⟨rfl, ?_⟩
      intro same
      rw [same] at isDraft
      exact isOther isDraft.symm
    · rw [if_neg isOther] at resolved
      exact Or.inr (existing resolved)

theorem resolveDependency_draft (minted : Minted drafts sequences) (isOther : dependency ≠ title)
    (isTask : titleToId drafts sequences dependency = some taskId) :
    project.resolveDependency drafts sequences title dependency = some taskId := by
  unfold resolveDependency
  rw [isTask]
  refine if_pos ?_
  intro same
  exact isOther (titleToId_injective minted isTask same.symm)

def withDrafts (project : CrewProject) (drafts : List TaskDraft) (sequences : List Nat)
    (sourceMessageId : Option String) : CrewProject :=
  { project with tasks := project.tasks ++ project.newTasks drafts sequences sourceMessageId }

theorem draftTask_dependsOn :
    taskId ∈ (project.draftTask drafts sequences sourceMessageId draft).dependsOn ↔
      ∃ dependency ∈ draft.dependsOn,
        project.resolveDependency drafts sequences draft.title dependency = some taskId :=
  List.mem_filterMap

theorem withDrafts_mem {task : CrewTask} :
    task ∈ (project.withDrafts drafts sequences sourceMessageId).tasks ↔
      task ∈ project.tasks ∨ ∃ draft ∈ firstDrafts [] drafts,
        project.draftTask drafts sequences sourceMessageId draft = task := by
  unfold withDrafts newTasks
  rw [List.mem_append, List.mem_map]

theorem withDrafts_distinct (minted : Minted drafts sequences) (fresh : project.Fresh sequences)
    (distinct : project.DistinctIds) :
    (project.withDrafts drafts sequences sourceMessageId).DistinctIds := by
  unfold DistinctIds withDrafts
  rw [List.map_append, List.nodup_append]
  refine ⟨distinct, ?_, ?_⟩
  · have titles := firstDrafts_titles_nodup [] drafts
    unfold newTasks
    rw [List.map_map]
    refine List.Nodup.map_on ?_ titles.of_map
    intro draft member other isOther same
    have sameTitle : draft.title = other.title := by
      refine titleToId_injective minted (draftTask_id project sourceMessageId minted member) ?_
      exact (draftTask_id project sourceMessageId minted isOther).trans (congrArg some same.symm)
    exact List.inj_on_of_nodup_map titles member isOther sameTitle
  · intro taskId isOld taskId' isNew same
    obtain ⟨task, isTask, rfl⟩ := List.mem_map.1 isOld
    obtain ⟨task', isTask', rfl⟩ := List.mem_map.1 isNew
    unfold newTasks at isTask'
    obtain ⟨draft, member, rfl⟩ := List.mem_map.1 isTask'
    exact draftTask_id_fresh minted fresh member isTask same

def NamedWaits (drafts : List TaskDraft) (sequences : List Nat) (taskId dependency : TaskId) :
    Prop :=
  ∃ title title', titleToId drafts sequences title = some taskId ∧
    titleToId drafts sequences title' = some dependency ∧ DraftWaits drafts title title'

theorem withDrafts_graph (minted : Minted drafts sequences) (fresh : project.Fresh sequences)
    (graph : project.Graph) (acyclic : Acyclic (DraftWaits drafts)) :
    (project.withDrafts drafts sequences sourceMessageId).Graph := by
  have isNewTask : ∀ {title taskId}, titleToId drafts sequences title = some taskId →
      ∃ draft ∈ firstDrafts [] drafts, draft.title = title ∧
        (project.draftTask drafts sequences sourceMessageId draft).id = taskId := by
    intro title taskId isTask
    obtain ⟨draft, member, sameTitle⟩ := titleToId_title isTask
    obtain ⟨first, isFirst, sameFirst⟩ := firstDrafts_of_title [] member List.not_mem_nil
    refine ⟨first, isFirst, sameFirst.trans sameTitle, ?_⟩
    have isId := draftTask_id project sourceMessageId minted isFirst
    rw [sameFirst, sameTitle, isTask] at isId
    exact (Option.some.inj isId).symm
  refine ⟨withDrafts_distinct minted fresh graph.distinct, ?_, ?_⟩
  · intro task member dependency isDependency
    rcases withDrafts_mem.1 member with isOld | ⟨draft, isDraft, rfl⟩
    · obtain ⟨upstream, isUpstream, same⟩ := graph.known task isOld dependency isDependency
      exact ⟨upstream, withDrafts_mem.2 (Or.inl isUpstream), same⟩
    · obtain ⟨title, _, resolved⟩ := draftTask_dependsOn.1 isDependency
      rcases resolveDependency_cases resolved with ⟨isTask, _⟩ | ⟨upstream, isUpstream, same⟩
      · obtain ⟨other, isOther, _, same⟩ := isNewTask isTask
        exact ⟨_, withDrafts_mem.2 (Or.inr ⟨other, isOther, rfl⟩), same⟩
      · exact ⟨upstream, withDrafts_mem.2 (Or.inl isUpstream), same⟩
  · refine graph.acyclic.layered (fun taskId => ∃ task ∈ project.tasks, task.id = taskId)
      (acyclic.of_named (S := NamedWaits drafts sequences)
        (fun title taskId => titleToId drafts sequences title = some taskId)
        (fun _ _ _ => titleToId_injective minted) (fun _ _ waits => waits)) ?_
    rintro taskId dependency ⟨task, member, rfl, isDependency⟩
    rcases withDrafts_mem.1 member with isOld | ⟨draft, isDraft, rfl⟩
    · exact Or.inl ⟨⟨task, isOld, rfl⟩, graph.known task isOld dependency isDependency,
        ⟨task, isOld, rfl, isDependency⟩⟩
    · refine Or.inr ⟨?_, ?_⟩
      · rintro ⟨task, isOld, same⟩
        exact draftTask_id_fresh minted fresh isDraft isOld same
      · obtain ⟨title, isWaited, resolved⟩ := draftTask_dependsOn.1 isDependency
        rcases resolveDependency_cases resolved with ⟨isTask, isOther⟩ | existing
        · refine Or.inr ⟨draft.title, title, draftTask_id project sourceMessageId minted isDraft,
            isTask, draft, isDraft, rfl, isWaited, isOther, titleToId_title isTask⟩
        · exact Or.inl existing

theorem withDrafts_waits (project : CrewProject) (sourceMessageId : Option String)
    (minted : Minted drafts sequences) (waits : DraftWaits drafts title dependency) :
    ∃ taskId dependencyId,
      titleToId drafts sequences title = some taskId ∧
      titleToId drafts sequences dependency = some dependencyId ∧
      (project.withDrafts drafts sequences sourceMessageId).DependsOn taskId dependencyId := by
  obtain ⟨draft, isDraft, rfl, isWaited, isOther, other, member, rfl⟩ := waits
  obtain ⟨sequence, _, isTask⟩ := titleToId_of_title minted member
  refine ⟨_, _, draftTask_id project sourceMessageId minted isDraft, isTask, ?_⟩
  refine ⟨_, withDrafts_mem.2 (Or.inr ⟨draft, isDraft, rfl⟩), rfl, ?_⟩
  exact draftTask_dependsOn.2 ⟨other.title, isWaited, resolveDependency_draft minted isOther isTask⟩

end NewTasks

/-- A task may come to wait for more, while it is todo or blocked. -/
structure Reorders (task task' : CrewTask) : Prop where
  sameId : task'.id = task.id
  sameTitle : task'.title = task.title
  sameSource : task'.createdFromMessageId = task.createdFromMessageId
  longer : task.dependsOn <+: task'.dependsOn
  stays : task'.dependsOn = task.dependsOn ∧ task'.status = task.status ∨
    task.status ∈ insertBeforeStatuses ∧ task'.status ∈ insertBeforeStatuses

theorem Reorders.refl (task : CrewTask) : Reorders task task :=
  ⟨rfl, rfl, rfl, List.prefix_refl _, Or.inl ⟨rfl, rfl⟩⟩

theorem Reorders.trans {first middle last : CrewTask} (early : Reorders first middle)
    (late : Reorders middle last) : Reorders first last where
  sameId := late.sameId.trans early.sameId
  sameTitle := late.sameTitle.trans early.sameTitle
  sameSource := late.sameSource.trans early.sameSource
  longer := early.longer.trans late.longer
  stays := by
    rcases early.stays with ⟨sameDependencies, sameStatus⟩ | ⟨wasOpen, isOpen⟩
    · rcases late.stays with ⟨sameDependencies', sameStatus'⟩ | ⟨isOpen, isOpen'⟩
      · exact Or.inl ⟨sameDependencies'.trans sameDependencies, sameStatus'.trans sameStatus⟩
      · exact Or.inr ⟨sameStatus ▸ isOpen, isOpen'⟩
    · rcases late.stays with ⟨_, sameStatus⟩ | ⟨_, isOpen'⟩
      · exact Or.inr ⟨wasOpen, sameStatus.symm ▸ isOpen⟩
      · exact Or.inr ⟨wasOpen, isOpen'⟩

/-- The tasks of a project, some of which may wait for more. -/
def Reordered (base project : CrewProject) : Prop :=
  List.Forall₂ Reorders base.tasks project.tasks ∧ project.auditEvents = base.auditEvents

theorem Reordered.refl (project : CrewProject) : Reordered project project :=
  ⟨List.forall₂_same.2 (fun task _ => Reorders.refl task), rfl⟩

theorem Reordered.trans {first middle last : CrewProject} (early : Reordered first middle)
    (late : Reordered middle last) : Reordered first last := by
  refine ⟨(forall₂_comp early.1 late.1).imp ?_, late.2.trans early.2⟩
  rintro task task' ⟨_, toMiddle, fromMiddle⟩
  exact toMiddle.trans fromMiddle

theorem Reordered.ids {base : CrewProject} (reordered : Reordered base project)
    (member : taskId ∈ base.tasks.map CrewTask.id) : taskId ∈ project.tasks.map CrewTask.id := by
  obtain ⟨task, isTask, rfl⟩ := List.mem_map.1 member
  obtain ⟨task', isTask', reorders⟩ := forall₂_mem_left reordered.1 isTask
  exact List.mem_map.2 ⟨task', isTask', reorders.sameId⟩

theorem orderBefore_cases (existing : CrewProject) (newTask : CrewTask) (ordering : Ordering)
    (targetTitle : String) :
    (orderBefore existing newTask ordering targetTitle).project = ordering.project ∨
    ∃ target, ordering.project.findTask target.id = some target ∧
      target.status ∈ insertBeforeStatuses ∧
      ordering.project.dependsTransitively newTask.id target.id = false ∧
      (orderBefore existing newTask ordering targetTitle).project =
        ordering.project.setTask target.id (fun task =>
          { task with dependsOn := task.dependsOn ++ [newTask.id], status := .blocked }) := by
  unfold orderBefore
  dsimp only
  split
  · exact Or.inl rfl
  · split
    · exact Or.inl rfl
    · rename_i known _ target found
      have isTarget : ordering.project.findTask target.id = some target := by
        rw [findTask_id found]
        exact found
      split
      · exact Or.inl rfl
      · rename_i isOpen
        split
        · exact Or.inl rfl
        · rename_i unreached
          split
          · exact Or.inl rfl
          · exact Or.inr ⟨target, isTarget, not_not.1 isOpen, Bool.eq_false_iff.2 unreached, rfl⟩

variable {ordering : Ordering}

theorem orderBefore_graph (existing : CrewProject) (targetTitle : String)
    (graph : ordering.project.Graph) (isNew : newTask.id ∈ ordering.project.tasks.map CrewTask.id) :
    (orderBefore existing newTask ordering targetTitle).project.Graph := by
  rcases orderBefore_cases existing newTask ordering targetTitle with same | ordered
  · rw [same]
    exact graph
  · obtain ⟨target, found, _, unreached, isOrdered⟩ := ordered
    rw [isOrdered]
    exact graph.order found isNew unreached

theorem blocked_open : TaskStatus.blocked ∈ insertBeforeStatuses := by decide

theorem orderBefore_reordered (existing : CrewProject) (newTask : CrewTask) (ordering : Ordering)
    (targetTitle : String) :
    Reordered ordering.project (orderBefore existing newTask ordering targetTitle).project := by
  rcases orderBefore_cases existing newTask ordering targetTitle with same | ordered
  · rw [same]
    exact Reordered.refl _
  · obtain ⟨target, found, isOpen, _, isOrdered⟩ := ordered
    rw [isOrdered]
    refine ⟨setTask_forall₂ Reorders.refl ?_, rfl⟩
    intro task isTask
    rw [found] at isTask
    cases isTask
    exact ⟨rfl, rfl, rfl, List.prefix_append _ _, Or.inr ⟨isOpen, blocked_open⟩⟩

theorem orderTitles_reordered (existing : CrewProject) (newTask : CrewTask) (titles : List String)
    (ordering : Ordering) :
    Reordered ordering.project (titles.foldl (orderBefore existing newTask) ordering).project := by
  induction titles generalizing ordering with
  | nil => exact Reordered.refl _
  | cons title rest ih =>
    exact (orderBefore_reordered existing newTask ordering title).trans (ih _)

theorem orderAll_reordered (existing : CrewProject) (drafts : List TaskDraft)
    (created : List CrewTask) (ordering : Ordering) :
    Reordered ordering.project (orderAll existing drafts ordering created).project := by
  induction created generalizing ordering with
  | nil => exact Reordered.refl _
  | cons newTask rest ih =>
    exact (orderTitles_reordered existing newTask _ ordering).trans (ih _)

theorem orderTitles_graph (existing : CrewProject) (titles : List String)
    (graph : ordering.project.Graph) (isNew : newTask.id ∈ ordering.project.tasks.map CrewTask.id) :
    (titles.foldl (orderBefore existing newTask) ordering).project.Graph := by
  induction titles generalizing ordering with
  | nil => exact graph
  | cons title rest ih =>
    exact ih (orderBefore_graph existing title graph isNew)
      ((orderBefore_reordered existing newTask ordering title).ids isNew)

theorem orderAll_graph (existing : CrewProject) (drafts : List TaskDraft) (created : List CrewTask)
    (graph : ordering.project.Graph)
    (areNew : ∀ task ∈ created, task.id ∈ ordering.project.tasks.map CrewTask.id) :
    (orderAll existing drafts ordering created).project.Graph := by
  induction created generalizing ordering with
  | nil => exact graph
  | cons newTask rest ih =>
    have isNew := areNew newTask List.mem_cons_self
    refine ih (orderTitles_graph existing (insertTitles drafts newTask) graph isNew) ?_
    intro task member
    exact (orderTitles_reordered existing newTask _ ordering).ids
      (areNew task (List.mem_cons_of_mem _ member))

end CrewProject

end AnnaAgent.Crew
