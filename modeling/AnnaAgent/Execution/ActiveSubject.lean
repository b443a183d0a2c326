/-
One active execution for each subject.

The partial unique index admits a new execution only on a subject without an
active one, and no other operation makes an execution active or changes its
subject.  A start translates the refusal of the index; a redrive does not.
-/

import AnnaAgent.Execution.EventLog

namespace AnnaAgent.Execution

open Foundation Db

def Db.OneActive (db : Db) : Prop :=
  ∀ row ∈ db.executions.rows, ∀ other ∈ db.executions.rows,
    row.status.active = true → other.status.active = true →
    other.workspaceId = row.workspaceId → other.subjectRef = row.subjectRef → other = row

theorem not_terminal_of_active {status : ExecutionStatus} (active : status.active = true) :
    status.terminal = false := by
  rw [status.active_eq_not_terminal] at active
  cases ended : status.terminal with
  | false => rfl
  | true =>
    rw [ended] at active
    cases active

theorem active_before {executionId : ExecutionId} {first last : Aggregate}
    {trace : List (Move Aggregate Label)} (run : Run (Transition executionId) first trace last)
    (quiet : ∀ move ∈ trace, move.label ≠ .started) {row' : ExecutionRow}
    (present : last.row = some row') (active : row'.status.active = true) :
    ∃ row, first.row = some row ∧ row.status.active = true ∧ row'.Continues row := by
  have follows : last.Follows first :=
    run.relates (fun earlier later => later.Follows earlier) .refl
      (fun early late => late.trans early) (fun _ _ _ step => step.follows)
  cases found : first.row with
  | none =>
    have absent := run.keeps (fun aggregate => aggregate.row = none)
      (fun move member step => step.absent (quiet move member)) found
    rw [absent] at present
    cases present
  | some row =>
    obtain ⟨_, samePresent, continues⟩ := follows.rows row found
    cases samePresent.symm.trans present
    refine ⟨row, rfl, ?_, continues⟩
    rw [row.status.active_eq_not_terminal]
    cases ended : row.status.terminal with
    | false => rfl
    | true =>
      cases (follows.frozen row found ended).1.symm.trans present
      rw [not_terminal_of_active active] at ended
      cases ended

/-- Where an active execution of the database after a call comes from. -/
inductive Origin (db db' : Db) (row : ExecutionRow) : Prop
  | continued {earlier : ExecutionRow} (member : earlier ∈ db.executions.rows)
      (active : earlier.status.active = true) (continues : row.Continues earlier)
  | created (onlyNew : ∀ other ∈ db'.executions.rows,
        other.executionId = row.executionId ∨ other ∈ db.executions.rows)
      (free : db.activeOn row.workspaceId row.subjectRef = [])

section Calls

variable {digest : Digest} {call : Call} {db db' : Db} {outcome : Outcome} {row : ExecutionRow}

theorem mem_of_aggregate_row (present : (db.aggregate row.executionId).row = some row) :
    row ∈ db.executions.rows :=
  Table.find?_mem present

theorem mem_of_same_aggregate (member : row ∈ db'.executions.rows)
    (same : db'.aggregate row.executionId = db.aggregate row.executionId) :
    row ∈ db.executions.rows := by
  apply mem_of_aggregate_row
  rw [← same]
  exact Table.find?_of_mem member

variable {command : ExecutionCommand}

theorem Created.origin {env : Env} {created : Option ExecutionId}
    (done : Created digest env command db db' created) (member : row ∈ db'.executions.rows)
    (active : row.status.active = true) :
    Origin db db' row := by
  cases done with
  | replayed replays unchanged =>
    rw [unchanged] at member
    exact .continued member active (.refl row)
  | overflowed records only =>
    exact .continued (mem_of_same_aggregate member (only.aggregate _)) active (.refl row)
  | @created new records advanced free found =>
    by_cases isNew : row.executionId = "exec_" ++ env.uuid
    · have sameRow : new = row := by
        have looked := Table.find?_of_mem member
        rw [isNew, found] at looked
        exact Option.some.inj looked
      rw [sameRow] at free
      refine .created ?_ (List.isEmpty_iff.1 free)
      intro other otherMember
      by_cases otherNew : other.executionId = "exec_" ++ env.uuid
      · exact Or.inl (otherNew.trans isNew.symm)
      · exact Or.inr (mem_of_same_aggregate otherMember (advanced.elsewhere _ otherNew))
    · exact .continued (mem_of_same_aggregate member (advanced.elsewhere _ isNew)) active
        (.refl row)

theorem origin_of_creation {body : Db → Except StoreError (Option ExecutionId × Db)} {env : Env}
    (createdBy : ∀ created after, body db = .ok (created, after) → Created digest env command db after created)
    (member : row ∈ (atomically body db).2.executions.rows) (active : row.status.active = true) :
    Origin db (atomically body db).2 row := by
  rcases atomically_cases body db with ⟨created, committed⟩ | same
  · exact (createdBy created _ committed).origin member active
  · rw [same] at member
    exact .continued member active (.refl row)

theorem perform_origin (done : perform digest call db = (outcome, db'))
    (member : row ∈ db'.executions.rows) (active : row.status.active = true) :
    Origin db db' row := by
  by_cases creates : ∃ command maxQueueDepth,
      call.operation = .dispatch command maxQueueDepth ∧ command.Creates
  · rcases creates with ⟨command, maxQueueDepth, isDispatch, creates⟩
    have last : (db.dispatch digest call.env command maxQueueDepth).2 = db' := by
      unfold perform at done
      rw [isDispatch] at done
      exact congrArg Prod.snd done
    cases command with
    | start command =>
      change (afterCreation _ _).2 = db' at last
      rw [afterCreation_db] at last
      subst last
      exact origin_of_creation (fun _ _ committed => startTransaction_created committed)
        member active
    | redrive command =>
      change (afterCreation _ _).2 = db' at last
      rw [afterCreation_db] at last
      subst last
      exact origin_of_creation (fun _ _ committed => redriveTransaction_created committed)
        member active
    | signal command | cancel command => exact creates.elim
  · obtain ⟨trace, run, allowed⟩ := (perform_traced done).moves row.executionId
    have quiet : ∀ move ∈ trace, move.label ≠ .started := by
      intro move inTrace isStarted
      have source := (allowed move inTrace).source
      rw [isStarted] at source
      exact creates source
    obtain ⟨earlier, found, earlierActive, continues⟩ :=
      active_before run quiet (Table.find?_of_mem member) active
    exact .continued (Table.find?_mem found) earlierActive continues

theorem execution_unique {other : ExecutionRow} (member : row ∈ db.executions.rows)
    (otherMember : other ∈ db.executions.rows) (sameId : other.executionId = row.executionId) :
    other = row :=
  List.inj_on_of_nodup_map db.executions.keysNodup otherMember member sameId

theorem alone_of_created {other : ExecutionRow} (otherMember : other ∈ db'.executions.rows)
    (member : row ∈ db'.executions.rows) (otherActive : other.status.active = true)
    (sameWorkspace : other.workspaceId = row.workspaceId)
    (sameSubject : other.subjectRef = row.subjectRef)
    (onlyNew : ∀ other ∈ db'.executions.rows, other.executionId = row.executionId ∨ other ∈ db.executions.rows)
    (free : db.activeOn row.workspaceId row.subjectRef = []) : other = row := by
  rcases onlyNew other otherMember with sameId | old
  · exact execution_unique member otherMember sameId
  · have active : other ∈ db.activeOn row.workspaceId row.subjectRef :=
      (Table.mem_select _).2 ⟨old, sameWorkspace, sameSubject, otherActive⟩
    rw [free] at active
    cases active

theorem perform_oneActive (done : perform digest call db = (outcome, db'))
    (oneActive : db.OneActive) : db'.OneActive := by
  intro row member other otherMember active otherActive sameWorkspace sameSubject
  cases perform_origin done member active with
  | created onlyNew free =>
    exact alone_of_created otherMember member otherActive sameWorkspace sameSubject onlyNew free
  | @continued earlier earlierMember earlierActive continues =>
    cases perform_origin done otherMember otherActive with
    | created onlyNew free =>
      exact (alone_of_created member otherMember active sameWorkspace.symm sameSubject.symm
        onlyNew free).symm
    | @continued first firstMember firstActive firstContinues =>
      have same : first = earlier := by
        apply oneActive earlier earlierMember first firstMember earlierActive firstActive
        · exact firstContinues.workspaceId.symm.trans
            (sameWorkspace.trans continues.workspaceId)
        · exact firstContinues.subjectRef.symm.trans (sameSubject.trans continues.subjectRef)
      apply execution_unique member otherMember
      rw [firstContinues.executionId, same, continues.executionId]

theorem reachable_oneActive (reached : ReachableDb digest db) : db.OneActive := by
  refine reached.invariant Db.OneActive (fun _ _ _ step => perform_oneActive step) ?_
  intro row member
  cases member

end Calls

section Creating

variable {digest : Digest} {env : Env} {db : Db} {row : ExecutionRow}

theorem insertExecution_of_free (free : db.activeOn row.workspaceId row.subjectRef = [])
    (unused : db.executions.find? row.executionId = none) :
    ∃ executions, db.executions.insert? row = some executions ∧
      db.insertExecution row = .ok { db with executions := executions } := by
  obtain ⟨executions, inserted⟩ := (Table.insert?_isSome_iff db.executions row).2 unused
  refine ⟨executions, inserted, ?_⟩
  unfold insertExecution require
  rw [if_pos (fun _ => List.isEmpty_iff.2 free), inserted]
  rfl

theorem insertExecution_of_taken (queued : row.status = .queued)
    (taken : db.activeOn row.workspaceId row.subjectRef ≠ [] ∨
      db.executions.find? row.executionId ≠ none) :
    ∃ constraint, db.insertExecution row = .error (.integrity constraint) := by
  by_cases free : db.activeOn row.workspaceId row.subjectRef = []
  · have present := taken.resolve_left (fun occupied => occupied free)
    cases inserted : db.executions.insert? row with
    | some executions =>
      exact absurd ((Table.insert?_isSome_iff db.executions row).1 ⟨executions, inserted⟩) present
    | none =>
      refine ⟨"executions PRIMARY KEY", ?_⟩
      unfold insertExecution require
      rw [if_pos (fun _ => List.isEmpty_iff.2 free), inserted]
      rfl
  · refine ⟨"idx_executions_one_active_subject", ?_⟩
    unfold insertExecution require
    rw [if_neg]
    · rfl
    · intro only
      exact free (List.isEmpty_iff.1 (only (by rw [queued]; rfl)))

theorem lt_nextOutboxId {row : OutboxRow} (member : row ∈ db.outbox.rows) :
    row.id < db.nextOutboxId := by
  have bound : ∀ ids : List Nat, ∀ id ∈ ids, id ≤ ids.foldr max 0 := by
    intro ids
    induction ids with
    | nil => exact nofun
    | cons head tail ih =>
      intro id member
      rcases List.mem_cons.1 member with isHead | inTail
      · exact isHead ▸ le_max_left _ _
      · exact (ih id inTail).trans (le_max_right _ _)
  exact Nat.lt_succ_of_le (bound _ row.id (List.mem_map_of_mem member))

theorem appendEvent_first {executionId : ExecutionId} {type : String} {payload : JsonObject}
    {now : Time} (present : db.executionExists executionId = true)
    (noEvents : db.eventsOf executionId = []) (noOutbox : db.outboxOf executionId = []) :
    ∃ db', db.appendEvent executionId type payload now = .ok db' ∧
      db'.executions = db.executions ∧ db'.commands = db.commands := by
  have numbered : db.maxSeq executionId = 0 := by
    unfold maxSeq
    rw [noEvents]
    rfl
  have freshEvent : db.events.find? (executionId, 1) = none := by
    rw [Table.find?_eq_none_iff]
    intro taken
    obtain ⟨event, member, sameKey⟩ := List.mem_map.1 taken
    have mine : event ∈ db.eventsOf executionId :=
      (Table.mem_select _).2 ⟨member, congrArg Prod.fst sameKey⟩
    rw [noEvents] at mine
    cases mine
  have freshOutbox : db.outbox.find? db.nextOutboxId = none := by
    rw [Table.find?_eq_none_iff]
    intro taken
    obtain ⟨row, member, sameId⟩ := List.mem_map.1 taken
    exact absurd sameId (lt_nextOutboxId member).ne
  obtain ⟨events, eventInserted⟩ := (Table.insert?_isSome_iff db.events
    { executionId := executionId, seq := 1, type := type, payload := payload,
      createdAt := now }).2 freshEvent
  obtain ⟨outbox, outboxInserted⟩ := (Table.insert?_isSome_iff db.outbox
    { id := db.nextOutboxId, executionId := executionId, seq := 1, type := type,
      payload := payload, createdAt := now }).2 freshOutbox
  refine ⟨{ db with events := events, outbox := outbox }, ?_, rfl, rfl⟩
  unfold appendEvent requireExecution require
  rw [if_pos present, numbered]
  have noneTaken : ∀ row ∈ db.outboxOf executionId, row.seq ≠ 0 + 1 := by
    rw [noOutbox]
    exact nofun
  simp only [Nat.zero_add] at noneTaken ⊢
  rw [eventInserted, if_pos noneTaken, outboxInserted]
  rfl

theorem insertCommand_of_fresh {command : ExecutionCommand} {executionId : ExecutionId}
    {result : CommandResult} {now : Time} (present : db.executionExists executionId = true)
    (fresh : db.commandRow command.workspaceId command.requestId = none) :
    ∃ db', db.insertCommand digest command (some executionId) result now = .ok db' ∧
      db'.executions = db.executions := by
  obtain ⟨commands, inserted⟩ := (Table.insert?_isSome_iff db.commands
    { workspaceId := command.workspaceId, requestId := command.requestId,
      commandType := command.typeName, executionId := some executionId,
      payloadHash := digest command.payload, payload := command.payload,
      result := result, createdAt := now }).2 fresh
  refine ⟨{ db with commands := commands }, ?_, rfl⟩
  have owned : ∀ id ∈ some executionId, db.executionExists id = true := by
    intro id same
    cases same
    exact present
  unfold insertCommand require
  rw [if_pos owned, inserted]
  rfl

theorem creation_succeeds (reached : ReachableDb digest db) {command : ExecutionCommand}
    {payload : JsonObject} (result : CommandResult) (eventAt now : Time)
    (free : db.activeOn row.workspaceId row.subjectRef = [])
    (unused : db.executions.find? row.executionId = none)
    (fresh : db.commandRow command.workspaceId command.requestId = none) :
    ∃ inserted appended db', db.insertExecution row = .ok inserted ∧
      inserted.appendEvent row.executionId "execution.started" payload eventAt = .ok appended ∧
      appended.insertCommand digest command (some row.executionId) result now = .ok db' ∧
      db'.executions.find? row.executionId = some row := by
  obtain ⟨executions, inserted, insertion⟩ := insertExecution_of_free free unused
  have logged := reachable_logged reached row.executionId
  have noEvents : db.eventsOf row.executionId = [] := logged.absent unused
  have noOutbox : db.outboxOf row.executionId = [] := by
    have mirrored := logged.sequenced.mirrored
    change (db.outboxOf row.executionId).map _ = (db.eventsOf row.executionId).map _ at mirrored
    rw [noEvents] at mirrored
    exact List.map_eq_nil_iff.1 mirrored
  have found : executions.find? row.executionId = some row := by
    rw [Table.find?_insert? inserted, if_pos rfl]
  have present : ({ db with executions := executions } : Db).executionExists row.executionId =
      true := by
    unfold executionExists
    rw [found]
    rfl
  obtain ⟨appended, event, sameExecutions, sameCommands⟩ :=
    @appendEvent_first { db with executions := executions } row.executionId "execution.started"
      payload eventAt present noEvents noOutbox
  have stillPresent : appended.executionExists row.executionId = true := by
    unfold executionExists
    rw [sameExecutions]
    exact present
  have stillFresh : appended.commandRow command.workspaceId command.requestId = none := by
    unfold commandRow
    rw [sameCommands]
    exact fresh
  obtain ⟨db', recorded, lastExecutions⟩ :=
    @insertCommand_of_fresh digest appended command row.executionId result now stillPresent
      stillFresh
  refine ⟨_, appended, db', insertion, event, recorded, ?_⟩
  rw [lastExecutions, sameExecutions]
  exact found

theorem activeExecutionId_of_occupied {workspaceId : WorkspaceId} {subjectRef : String}
    (occupied : db.activeOn workspaceId subjectRef ≠ []) :
    ∃ active ∈ db.activeOn workspaceId subjectRef,
      db.activeExecutionId workspaceId subjectRef = some active.executionId := by
  cases first : (db.activeOn workspaceId subjectRef).minOn? ExecutionRow.createdAt with
  | none =>
    have isSome : ((db.activeOn workspaceId subjectRef).minOn? ExecutionRow.createdAt).isSome =
        true := List.isSome_minOn?_iff.2 occupied
    rw [first] at isSome
    cases isSome
  | some active =>
    refine ⟨active, List.minOn?_mem first, ?_⟩
    unfold activeExecutionId
    rw [first]
    rfl

section Transactions

variable {start : StartExecution} {redrive : RedriveExecution} {original : ExecutionRow}
  {maxQueueDepth : Int}

theorem startTransaction_of_free (reached : ReachableDb digest db)
    (fresh : db.commandRow start.workspaceId start.requestId = none)
    (room : (db.queuedCount start.workspaceId : Int) < maxQueueDepth)
    (free : db.activeOn start.workspaceId start.subjectRef = [])
    (unused : db.executions.find? ("exec_" ++ env.uuid) = none) :
    ∃ db', startTransaction digest env start maxQueueDepth db =
        .ok (some ("exec_" ++ env.uuid), db') ∧
      db'.executions.find? ("exec_" ++ env.uuid) =
        some (startRow start ("exec_" ++ env.uuid) (env.clock 0)) := by
  obtain ⟨inserted, appended, db', insertion, event, recorded, found⟩ :=
    @creation_succeeds digest db (startRow start ("exec_" ++ env.uuid) (env.clock 0)) reached
      (.start start) (startedPayload (startRow start ("exec_" ++ env.uuid) (env.clock 0)))
      (.execution ("exec_" ++ env.uuid)) (env.clock 1) (env.clock 2) free unused fresh
  refine ⟨db', ?_, found⟩
  have starts : db.insertStarted (startRow start ("exec_" ++ env.uuid) (env.clock 0)) =
      .ok inserted := by
    unfold insertStarted
    rw [insertion]
  unfold startTransaction
  rw [fresh]
  simp only
  rw [if_neg (not_le.2 room), bind_of_ok _ starts]
  exact (bind_of_ok _ event).trans (bind_of_ok _ recorded)

theorem redriveTransaction_of_free (reached : ReachableDb digest db)
    (fresh : db.commandRow redrive.workspaceId redrive.requestId = none)
    (found : db.executionRowIn redrive.executionId redrive.workspaceId = .ok original)
    (ended : original.status = .failed ∨ original.status = .cancelled)
    (room : (db.queuedCount redrive.workspaceId : Int) < maxQueueDepth)
    (free : db.activeOn original.workspaceId original.subjectRef = [])
    (unused : db.executions.find? ("exec_" ++ env.uuid) = none) :
    ∃ db', redriveTransaction digest env redrive maxQueueDepth db =
        .ok (some ("exec_" ++ env.uuid), db') ∧
      db'.executions.find? ("exec_" ++ env.uuid) =
        some (redriveRow redrive original ("exec_" ++ env.uuid) (env.clock 0)) := by
  obtain ⟨inserted, appended, db', insertion, event, recorded, created⟩ :=
    @creation_succeeds digest db (redriveRow redrive original ("exec_" ++ env.uuid) (env.clock 0))
      reached (.redrive redrive)
      (startedPayload (redriveRow redrive original ("exec_" ++ env.uuid) (env.clock 0)) ++
        [("redrive", .obj (redriveRow redrive original ("exec_" ++ env.uuid)
          (env.clock 0)).redriveMetadata)])
      (.execution ("exec_" ++ env.uuid)) (env.clock 1) (env.clock 2) free unused fresh
  refine ⟨db', ?_, created⟩
  have finished : require (original.status = .failed ∨ original.status = .cancelled)
      (.terminalState redrive.executionId) = .ok () := require_ok.2 ended
  unfold redriveTransaction
  rw [fresh]
  simp only
  rw [bind_of_ok _ found, bind_of_ok _ finished, if_neg (not_le.2 room), bind_of_ok _ insertion]
  exact (bind_of_ok _ event).trans (bind_of_ok _ recorded)

theorem startTransaction_of_occupied
    (fresh : db.commandRow start.workspaceId start.requestId = none)
    (room : (db.queuedCount start.workspaceId : Int) < maxQueueDepth)
    (occupied : db.activeOn start.workspaceId start.subjectRef ≠ []) :
    ∃ active ∈ db.activeOn start.workspaceId start.subjectRef,
      startTransaction digest env start maxQueueDepth db =
        .error (.activeExecutionConflict start.subjectRef active.executionId) := by
  obtain ⟨active, member, named⟩ := activeExecutionId_of_occupied occupied
  obtain ⟨constraint, refused⟩ := @insertExecution_of_taken db
    (startRow start ("exec_" ++ env.uuid) (env.clock 0)) rfl (Or.inl occupied)
  refine ⟨active, member, ?_⟩
  have conflict : db.insertStarted (startRow start ("exec_" ++ env.uuid) (env.clock 0)) =
      .error (.activeExecutionConflict start.subjectRef active.executionId) := by
    unfold insertStarted
    rw [refused]
    simp only [startRow]
    rw [named]
  unfold startTransaction
  rw [fresh]
  simp only
  rw [if_neg (not_le.2 room), bind_of_error _ conflict]

theorem startTransaction_of_used (fresh : db.commandRow start.workspaceId start.requestId = none)
    (room : (db.queuedCount start.workspaceId : Int) < maxQueueDepth)
    (used : db.executions.find? ("exec_" ++ env.uuid) ≠ none) :
    ∃ error, startTransaction digest env start maxQueueDepth db = .error error := by
  obtain ⟨constraint, refused⟩ := @insertExecution_of_taken db
    (startRow start ("exec_" ++ env.uuid) (env.clock 0)) rfl (Or.inr used)
  have fails : ∃ error, db.insertStarted
      (startRow start ("exec_" ++ env.uuid) (env.clock 0)) = .error error := by
    unfold insertStarted
    rw [refused]
    simp only
    split
    · exact ⟨_, rfl⟩
    · exact ⟨_, rfl⟩
  rcases fails with ⟨error, failed⟩
  refine ⟨error, ?_⟩
  unfold startTransaction
  rw [fresh]
  simp only
  rw [if_neg (not_le.2 room), bind_of_error _ failed]

theorem redriveTransaction_of_taken
    (fresh : db.commandRow redrive.workspaceId redrive.requestId = none)
    (found : db.executionRowIn redrive.executionId redrive.workspaceId = .ok original)
    (ended : original.status = .failed ∨ original.status = .cancelled)
    (room : (db.queuedCount redrive.workspaceId : Int) < maxQueueDepth)
    (taken : db.activeOn original.workspaceId original.subjectRef ≠ [] ∨
      db.executions.find? ("exec_" ++ env.uuid) ≠ none) :
    ∃ constraint, redriveTransaction digest env redrive maxQueueDepth db =
      .error (.integrity constraint) := by
  obtain ⟨constraint, refused⟩ := @insertExecution_of_taken db
    (redriveRow redrive original ("exec_" ++ env.uuid) (env.clock 0)) rfl taken
  refine ⟨constraint, ?_⟩
  have finished : require (original.status = .failed ∨ original.status = .cancelled)
      (.terminalState redrive.executionId) = .ok () := require_ok.2 ended
  unfold redriveTransaction
  rw [fresh]
  simp only
  rw [bind_of_ok _ found, bind_of_ok _ finished, if_neg (not_le.2 room), bind_of_error _ refused]

end Transactions

end Creating

/-! ### The conflict -/

/-- The dispatch is new and under the queue limit, a redrive is aimed at a failed
or cancelled execution, and the execution asked for is one of this subject. -/
structure Db.Asks (db : Db) (command : ExecutionCommand) (maxQueueDepth : Int)
    (workspaceId : WorkspaceId) (subjectRef : String) : Prop where
  fresh : db.commandRow command.workspaceId command.requestId = none
  room : (db.queuedCount command.workspaceId : Int) < maxQueueDepth
  subject : match command with
    | .start start => start.workspaceId = workspaceId ∧ start.subjectRef = subjectRef
    | .redrive redrive => ∃ original, db.executions.find? redrive.executionId = some original ∧
        original.workspaceId = redrive.workspaceId ∧
        (original.status = .failed ∨ original.status = .cancelled) ∧
        original.workspaceId = workspaceId ∧ original.subjectRef = subjectRef
    | .signal _ | .cancel _ => False

/-- The dispatch creates an execution when the subject is free, and names the
active execution and changes nothing when it is not. -/
def CreatesOrConflicts (db : Db) (workspaceId : WorkspaceId) (subjectRef : String)
    (dispatched : Except StoreError ExecutionSnapshot × Db) : Prop :=
  (db.activeOn workspaceId subjectRef = [] →
    ∃ snapshot, dispatched.1 = .ok snapshot ∧
      db.executions.find? snapshot.executionId = none ∧
      dispatched.2.executions.find? snapshot.executionId = some snapshot ∧
      snapshot.status = .queued ∧ snapshot.workspaceId = workspaceId ∧
      snapshot.subjectRef = subjectRef) ∧
  ∀ active ∈ db.activeOn workspaceId subjectRef,
    dispatched = (.error (.activeExecutionConflict subjectRef active.executionId), db)

def ExecutionCommand.Translates : ExecutionCommand → Prop
  | .start _ => True
  | .redrive _ | .signal _ | .cancel _ => False

section Conflict

variable {digest : Digest} {env : Env} {db : Db} {workspaceId : WorkspaceId}
  {subjectRef : String}

theorem dispatched_of_created {requestId : RequestId}
    {body : Db → Except StoreError (Option ExecutionId × Db)} {db' : Db} {row : ExecutionRow}
    (committed : body db = .ok (some row.executionId, db'))
    (unused : db.executions.find? row.executionId = none)
    (found : db'.executions.find? row.executionId = some row) (queued : row.status = .queued)
    (free : db.activeOn row.workspaceId row.subjectRef = []) :
    CreatesOrConflicts db row.workspaceId row.subjectRef
      (afterCreation requestId (atomically body db)) := by
  have dispatched : afterCreation requestId (atomically body db) = (.ok row, db') := by
    unfold atomically
    rw [committed]
    change (db'.get row.executionId, db') = _
    rw [show db'.get row.executionId = .ok row from executionRow_ok.2 found]
  rw [dispatched]
  constructor
  · intro _
    exact ⟨row, rfl, unused, found, queued, rfl, rfl⟩
  · intro active member
    rw [free] at member
    cases member

theorem dispatched_of_error {requestId : RequestId}
    {body : Db → Except StoreError (Option ExecutionId × Db)} {error : StoreError}
    (failed : body db = .error error) :
    afterCreation requestId (atomically body db) = (.error error, db) := by
  unfold atomically
  rw [failed]
  rfl

theorem not_creates_of_error {error : StoreError} (free : db.activeOn workspaceId subjectRef = []) :
    ¬ CreatesOrConflicts db workspaceId subjectRef (.error error, db) := by
  rintro ⟨creates, _⟩
  obtain ⟨snapshot, impossible, _⟩ := creates free
  cases impossible

theorem start_creates_or_conflicts (reached : ReachableDb digest db) {start : StartExecution}
    {maxQueueDepth : Int} (asks : db.Asks (.start start) maxQueueDepth workspaceId subjectRef) :
    CreatesOrConflicts db workspaceId subjectRef
        (db.dispatch digest env (.start start) maxQueueDepth) ↔
      db.activeOn workspaceId subjectRef ≠ [] ∨
        db.executions.find? ("exec_" ++ env.uuid) = none := by
  rcases asks with ⟨fresh, room, sameWorkspace, sameSubject⟩
  subst sameWorkspace sameSubject
  by_cases free : db.activeOn start.workspaceId start.subjectRef = []
  · cases used : db.executions.find? ("exec_" ++ env.uuid) with
    | none =>
      obtain ⟨db', committed, found⟩ := startTransaction_of_free reached fresh room free used
      refine ⟨fun _ => Or.inr rfl, fun _ => ?_⟩
      exact @dispatched_of_created db _ _ db'
        (startRow start ("exec_" ++ env.uuid) (env.clock 0)) committed used found rfl free
    | some row =>
      obtain ⟨error, failed⟩ :=
        @startTransaction_of_used digest env db start maxQueueDepth fresh room (by rw [used]; nofun)
      have dispatched : db.dispatch digest env (.start start) maxQueueDepth =
          (.error error, db) := dispatched_of_error failed
      rw [dispatched]
      constructor
      · intro rule
        exact absurd rule (not_creates_of_error free)
      · rintro (occupied | impossible)
        · exact absurd free occupied
        · cases impossible
  · refine ⟨fun _ => Or.inl free, fun _ => ⟨fun isFree => absurd isFree free, ?_⟩⟩
    intro active member
    obtain ⟨other, otherMember, failed⟩ :=
      @startTransaction_of_occupied digest env db start maxQueueDepth fresh room free
    have same : other = active := by
      obtain ⟨inTable, workspace, subject, isActive⟩ := (Table.mem_select _).1 member
      obtain ⟨otherInTable, otherWorkspace, otherSubject, otherActive⟩ :=
        (Table.mem_select _).1 otherMember
      exact reachable_oneActive reached active inTable other otherInTable isActive otherActive
        (otherWorkspace.trans workspace.symm) (otherSubject.trans subject.symm)
    rw [same] at failed
    exact dispatched_of_error failed

theorem redrive_creates_or_conflicts (reached : ReachableDb digest db)
    {redrive : RedriveExecution} {maxQueueDepth : Int}
    (asks : db.Asks (.redrive redrive) maxQueueDepth workspaceId subjectRef) :
    CreatesOrConflicts db workspaceId subjectRef
        (db.dispatch digest env (.redrive redrive) maxQueueDepth) ↔
      db.activeOn workspaceId subjectRef = [] ∧
        db.executions.find? ("exec_" ++ env.uuid) = none := by
  rcases asks with ⟨fresh, room, original, present, owned, ended, sameWorkspace, sameSubject⟩
  subst sameWorkspace sameSubject
  have found := executionRowIn_ok.2 ⟨present, owned⟩
  by_cases free : db.activeOn original.workspaceId original.subjectRef = []
  · cases used : db.executions.find? ("exec_" ++ env.uuid) with
    | none =>
      obtain ⟨db', committed, created⟩ :=
        redriveTransaction_of_free reached fresh found ended room free used
      refine ⟨fun _ => ⟨free, rfl⟩, fun _ => ?_⟩
      exact @dispatched_of_created db _ _ db'
        (redriveRow redrive original ("exec_" ++ env.uuid) (env.clock 0)) committed used
        created rfl free
    | some row =>
      obtain ⟨constraint, failed⟩ := @redriveTransaction_of_taken digest env db redrive original
        maxQueueDepth fresh found ended room (Or.inr (by rw [used]; nofun))
      have dispatched : db.dispatch digest env (.redrive redrive) maxQueueDepth =
          (.error (.integrity constraint), db) := dispatched_of_error failed
      rw [dispatched]
      constructor
      · intro rule
        exact absurd rule (not_creates_of_error free)
      · rintro ⟨_, impossible⟩
        cases impossible
  · obtain ⟨constraint, failed⟩ := @redriveTransaction_of_taken digest env db redrive original
      maxQueueDepth fresh found ended room (Or.inl free)
    have dispatched := @dispatched_of_error db redrive.requestId _ _ failed
    constructor
    · rintro ⟨_, conflicts⟩
      obtain ⟨active, member⟩ := List.exists_mem_of_ne_nil _ free
      cases dispatched.symm.trans (conflicts active member)
    · rintro ⟨isFree, _⟩
      exact absurd isFree free

end Conflict

/-- At most one execution of a subject is active in every reachable state, and a
creating dispatch follows the rule exactly when the subject is free and the
drawn id is, or the command translates the refusal. -/
theorem one_active_execution (digest : Digest) :
    (∀ db, ReachableDb digest db → db.OneActive) ∧
    ∀ db env command maxQueueDepth workspaceId subjectRef, ReachableDb digest db →
      db.Asks command maxQueueDepth workspaceId subjectRef →
      (CreatesOrConflicts db workspaceId subjectRef
          (db.dispatch digest env command maxQueueDepth) ↔
        (db.activeOn workspaceId subjectRef ≠ [] ∧ command.Translates) ∨
          (db.activeOn workspaceId subjectRef = [] ∧
            db.executions.find? ("exec_" ++ env.uuid) = none)) := by
  refine ⟨fun db reached => reachable_oneActive reached, ?_⟩
  intro db env command maxQueueDepth workspaceId subjectRef reached asks
  cases command with
  | start start =>
    rw [start_creates_or_conflicts reached asks]
    constructor
    · intro rule
      by_cases free : db.activeOn workspaceId subjectRef = []
      · exact Or.inr ⟨free, rule.resolve_left (fun occupied => occupied free)⟩
      · exact Or.inl ⟨free, trivial⟩
    · rintro (⟨occupied, _⟩ | ⟨_, unused⟩)
      · exact Or.inl occupied
      · exact Or.inr unused
  | redrive redrive =>
    rw [redrive_creates_or_conflicts reached asks]
    constructor
    · exact Or.inr
    · rintro (⟨_, impossible⟩ | rule)
      · exact impossible.elim
      · exact rule
  | signal signal | cancel cancel => exact asks.subject.elim

/-- A cancelled execution whose subject has been started on again. -/
def replacedDb : Db :=
  performAll sampleDigest empty
    [callAt 0 "a" (sampleStart "first"),
     callAt 1 "" (.dispatch (.cancel
      { requestId := "cancel", workspaceId := "ws", executionId := "exec_a", reason := "" }) 100),
     callAt 2 "b" (sampleStart "second")]

def replacedRedrive : RedriveExecution :=
  { requestId := "redrive", workspaceId := "ws", executionId := "exec_a", reason := "again" }

theorem replaced_asks : replacedDb.Asks (.redrive replacedRedrive) 100 "ws" "subject" := by
  have looked : (replacedDb.executions.find? "exec_a").map
      (fun row => (row.workspaceId, row.subjectRef, row.status)) =
        some ("ws", "subject", .cancelled) := by decide +kernel
  obtain ⟨original, found, same⟩ := Option.map_eq_some_iff.1 looked
  obtain ⟨workspace, same⟩ := Prod.mk.inj same
  obtain ⟨subject, cancelled⟩ := Prod.mk.inj same
  exact
    { fresh := Option.isNone_iff_eq_none.1 (by decide +kernel)
      room := by decide +kernel
      subject := ⟨original, found, workspace, Or.inr cancelled, workspace, subject⟩ }

theorem redrive_raises_integrity :
    ¬ ∀ db env command maxQueueDepth workspaceId subjectRef, ReachableDb sampleDigest db →
      db.Asks command maxQueueDepth workspaceId subjectRef →
      db.executions.find? ("exec_" ++ env.uuid) = none →
      CreatesOrConflicts db workspaceId subjectRef
        (db.dispatch sampleDigest env command maxQueueDepth) := by
  intro always
  have reached : ReachableDb sampleDigest replacedDb := performAll_reachable _ _
  have rule := always replacedDb (callAt 3 "c" .reconcileStartup).env (.redrive replacedRedrive) 100
    "ws" "subject" reached replaced_asks (Option.isNone_iff_eq_none.1 (by decide +kernel))
  have free := ((redrive_creates_or_conflicts reached replaced_asks).1 rule).1
  have one : (replacedDb.activeOn "ws" "subject").length = 1 := by decide +kernel
  rw [free] at one
  cases one

end AnnaAgent.Execution
