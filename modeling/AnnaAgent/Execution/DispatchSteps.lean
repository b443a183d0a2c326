/-
What a dispatch does.

A dispatch finds its command already recorded, or records it together with the
step the command asks for, or records a queue overflow alone.
-/

import AnnaAgent.Execution.ClaimLoop

namespace AnnaAgent.Execution

open Foundation

variable {digest : Digest} {env : Env} {db db' : Db}

structure Replays (digest : Digest) (command : ExecutionCommand) (db : Db)
    (existing : CommandRow) : Prop where
  found : db.commandRow command.workspaceId command.requestId = some existing
  samePayload : existing.payloadHash = digest command.payload

structure Records (digest : Digest) (command : ExecutionCommand) (result : CommandResult)
    (db db' : Db) : Prop where
  fresh : db.commandRow command.workspaceId command.requestId = none
  recorded : ∃ row, Replays digest command db' row ∧ row.result = result
  kept : ∀ key row, db.commands.find? key = some row → db'.commands.find? key = some row

def OnlyCommands (db db' : Db) : Prop :=
  ∃ commands, db' = { db with commands := commands }

theorem OnlyCommands.aggregate (only : OnlyCommands db db') (executionId : ExecutionId) :
    db'.aggregate executionId = db.aggregate executionId := by
  rcases only with ⟨commands, same⟩
  rw [same]
  rfl

variable {existing : CommandRow}

theorem assertSameCommand_ok {command : ExecutionCommand} {value : Unit} :
    Db.assertSameCommand digest existing command = .ok value ↔
      existing.payloadHash = digest command.payload :=
  require_ok

variable {result : CommandResult} {now : Time}

theorem insertCommand_records {command : ExecutionCommand} {executionId : Option ExecutionId}
    (inserted : db.insertCommand digest command executionId result now = .ok db') :
    Records digest command result db db' ∧ OnlyCommands db db' := by
  obtain ⟨_, _, inserted⟩ := bind_ok inserted
  obtain ⟨commands, taken, inserted⟩ := bind_ok inserted
  rw [orThrow_ok] at taken
  cases inserted
  have fresh := Table.insert?_fresh taken
  have looked := Table.find?_insert? taken (command.workspaceId, command.requestId)
  rw [if_pos rfl] at looked
  refine ⟨⟨fresh, ?_, ?_⟩, commands, rfl⟩
  · exact ⟨_, ⟨looked, rfl⟩, rfl⟩
  · intro key row found
    change commands.find? key = some row
    rw [Table.find?_insert? taken, if_neg, found]
    intro same
    rw [← same, fresh] at found
    cases found

variable {executionId : ExecutionId}

theorem Moved.records {label : Label} {middle : Db} {aggregate : Aggregate}
    {command : ExecutionCommand} {target : Option ExecutionId} {result : CommandResult}
    {now : Time} (moved : Moved executionId db middle aggregate)
    (step : Transition executionId (db.aggregate executionId) label aggregate)
    (inserted : middle.insertCommand digest command target result now = .ok db') :
    Records digest command result db db' ∧ Advanced executionId label db db' := by
  obtain ⟨records, only⟩ := insertCommand_records inserted
  constructor
  · constructor
    · have fresh := records.fresh
      unfold Db.commandRow at fresh ⊢
      rw [← moved.commands]
      exact fresh
    · exact records.recorded
    · intro key row found
      exact records.kept key row (moved.commands ▸ found)
  · exact (moved.advanced step).followed only.aggregate records.kept

inductive Created (digest : Digest) (env : Env) (command : ExecutionCommand) (db db' : Db) :
    Option ExecutionId → Prop
  | replayed {existing : CommandRow} (replays : Replays digest command db existing)
      (unchanged : db' = db) : Created digest env command db db' existing.result.created
  | overflowed (records : Records digest command .queueOverflow db db')
      (only : OnlyCommands db db') :
      Created digest env command db db' none
  | created {row : ExecutionRow}
      (records : Records digest command (.execution ("exec_" ++ env.uuid)) db db')
      (advanced : Advanced ("exec_" ++ env.uuid) .started db db')
      (free : (db.activeOn row.workspaceId row.subjectRef).isEmpty = true)
      (found : db'.executions.find? ("exec_" ++ env.uuid) = some row) :
      Created digest env command db db' (some ("exec_" ++ env.uuid))

variable {row : ExecutionRow}

theorem insertStarted_ok (inserted : db.insertStarted row = .ok db') :
    db.insertExecution row = .ok db' := by
  unfold Db.insertStarted at inserted
  split at inserted
  · rename_i done
    cases inserted
    exact done
  · split at inserted
    · cases inserted
    · cases inserted

private theorem created_of_inserted {command : ExecutionCommand} {inserted appended : Db}
    {payload : JsonObject} {eventAt : Time} (owned : row.executionId = "exec_" ++ env.uuid)
    (queued : row.status = .queued) (unclaimed : row.attempt = 0 ∧ row.leaseToken = 0)
    (noLease : row.leaseOwner = none ∧ row.leaseExpiresAt = none)
    (insertion : db.insertExecution row = .ok inserted)
    (event : inserted.appendEvent ("exec_" ++ env.uuid) "execution.started" payload eventAt = .ok appended)
    (recorded : appended.insertCommand digest command (some ("exec_" ++ env.uuid)) (.execution ("exec_" ++ env.uuid)) now = .ok db') :
    Created digest env command db db' (some ("exec_" ++ env.uuid)) := by
  obtain ⟨absent, moved⟩ := (Moved.refl db ("exec_" ++ env.uuid)).insertExecution owned insertion
  have chain := moved.appendEvent event
  obtain ⟨records, advanced⟩ := chain.records
    (.started absent queued unclaimed noLease rfl) recorded
  have free := (Moved.insertExecution_ok insertion).1 (by rw [queued]; rfl)
  refine .created records advanced free ?_
  obtain ⟨_, only⟩ := insertCommand_records recorded
  have sameRow := congrArg Aggregate.row (only.aggregate ("exec_" ++ env.uuid))
  exact sameRow.trans chain.found

variable {maxQueueDepth : Int} {created : Option ExecutionId}

theorem startTransaction_created {command : StartExecution}
    (done : Db.startTransaction digest env command maxQueueDepth db = .ok (created, db')) :
    Created digest env (.start command) db db' created := by
  unfold Db.startTransaction at done
  split at done
  · rename_i existing found
    obtain ⟨_, same, done⟩ := bind_ok done
    rw [assertSameCommand_ok] at same
    cases done
    exact .replayed ⟨found, same⟩ rfl
  · split at done
    · obtain ⟨_, inserted, done⟩ := bind_ok done
      cases done
      obtain ⟨records, only⟩ := insertCommand_records inserted
      exact .overflowed records only
    · obtain ⟨_, inserted, done⟩ := bind_ok done
      obtain ⟨_, appended, done⟩ := bind_ok done
      obtain ⟨_, recorded, done⟩ := bind_ok done
      cases done
      exact created_of_inserted rfl rfl ⟨rfl, rfl⟩ ⟨rfl, rfl⟩ (insertStarted_ok inserted)
        appended recorded

theorem redriveTransaction_created {command : RedriveExecution}
    (done : Db.redriveTransaction digest env command maxQueueDepth db = .ok (created, db')) :
    Created digest env (.redrive command) db db' created := by
  unfold Db.redriveTransaction at done
  split at done
  · rename_i existing found
    obtain ⟨_, same, done⟩ := bind_ok done
    rw [assertSameCommand_ok] at same
    cases done
    exact .replayed ⟨found, same⟩ rfl
  · obtain ⟨_, _, done⟩ := bind_ok done
    obtain ⟨_, _, done⟩ := bind_ok done
    split at done
    · obtain ⟨_, inserted, done⟩ := bind_ok done
      cases done
      obtain ⟨records, only⟩ := insertCommand_records inserted
      exact .overflowed records only
    · obtain ⟨_, inserted, done⟩ := bind_ok done
      obtain ⟨_, appended, done⟩ := bind_ok done
      obtain ⟨_, recorded, done⟩ := bind_ok done
      cases done
      exact created_of_inserted rfl rfl ⟨rfl, rfl⟩ ⟨rfl, rfl⟩ inserted appended recorded

inductive Targeted (digest : Digest) (command : ExecutionCommand) (executionId : ExecutionId)
    (label : Label) (result : CommandResult) (db db' : Db) (snapshot : ExecutionSnapshot) : Prop
  | replayed {existing : CommandRow} {target : ExecutionId}
      (replays : Replays digest command db existing)
      (targeted : existing.result.target = .ok target) (unchanged : db' = db)
      (found : db.executions.find? target = some snapshot)
  | applied (records : Records digest command result db db')
      (advanced : Advanced executionId label db db')
      (found : db'.executions.find? executionId = some snapshot)

variable {snapshot : ExecutionSnapshot}

theorem dispatchSignal_targeted {command : SignalExecution}
    (done : Db.dispatchSignal digest env command db = .ok (snapshot, db')) :
    Targeted digest (.signal command) command.executionId (.signaled ("sig_" ++ env.uuid))
      (.signal command.executionId ("sig_" ++ env.uuid)) db db' snapshot := by
  unfold Db.dispatchSignal at done
  split at done
  · rename_i existing found
    obtain ⟨_, same, done⟩ := bind_ok done
    obtain ⟨target, targeted, done⟩ := bind_ok done
    obtain ⟨_, read, done⟩ := bind_ok done
    rw [assertSameCommand_ok] at same
    cases done
    exact .replayed ⟨found, same⟩ targeted rfl (executionRow_ok.1 read)
  · obtain ⟨row, found, done⟩ := bind_ok done
    obtain ⟨_, alive, done⟩ := bind_ok done
    obtain ⟨_, inserted, done⟩ := bind_ok done
    obtain ⟨_, appended, done⟩ := bind_ok done
    obtain ⟨_, recorded, done⟩ := bind_ok done
    obtain ⟨_, read, done⟩ := bind_ok done
    rw [executionRowIn_ok] at found
    rw [require_ok] at alive
    cases done
    have present : (db.aggregate command.executionId).row = some row := found.1
    have signaled := ((Moved.refl db command.executionId).insertSignal rfl inserted).appendEvent
      appended
    have chain := @Moved.updateExecution _ _ _ _ signaled
      (fun old => old.touched (env.clock 0)) (fun _ => rfl) row present
    obtain ⟨records, advanced⟩ := chain.records (.signaled present alive rfl rfl) recorded
    exact .applied records advanced (executionRow_ok.1 read)

private theorem cancelled_attempts {aggregate : Aggregate}
    (moved : Moved executionId db db' aggregate) (leaseToken : Nat) :
    Moved executionId db
      (if leaseToken = 0 then db' else db'.setAttemptByToken executionId leaseToken .cancelled)
      (aggregate.mapAttempts (fun attempt => leaseToken ≠ 0 ∧ attempt.leaseToken = leaseToken)
        (fun attempt => { attempt with status := .cancelled })) := by
  by_cases unclaimed : leaseToken = 0
  · rw [if_pos unclaimed]
    have same : aggregate.mapAttempts
        (fun attempt => leaseToken ≠ 0 ∧ attempt.leaseToken = leaseToken)
        (fun attempt => { attempt with status := .cancelled }) = aggregate := by
      unfold Aggregate.mapAttempts
      simp [unclaimed]
    rw [same]
    exact moved
  · rw [if_neg unclaimed,
      Aggregate.mapAttempts_congr _ _ (fun attempt _ => and_iff_right unclaimed)]
    exact moved.setAttemptByToken leaseToken .cancelled

theorem dispatchCancel_targeted {command : CancelExecution}
    (done : Db.dispatchCancel digest env command db = .ok (snapshot, db')) :
    Targeted digest (.cancel command) command.executionId .cancelled
      (.execution command.executionId) db db' snapshot := by
  unfold Db.dispatchCancel at done
  split at done
  · rename_i existing found
    obtain ⟨_, same, done⟩ := bind_ok done
    obtain ⟨target, targeted, done⟩ := bind_ok done
    obtain ⟨_, read, done⟩ := bind_ok done
    rw [assertSameCommand_ok] at same
    cases done
    exact .replayed ⟨found, same⟩ targeted rfl (executionRow_ok.1 read)
  · obtain ⟨row, found, done⟩ := bind_ok done
    obtain ⟨_, alive, done⟩ := bind_ok done
    obtain ⟨_, appended, done⟩ := bind_ok done
    obtain ⟨_, recorded, done⟩ := bind_ok done
    obtain ⟨_, read, done⟩ := bind_ok done
    rw [executionRowIn_ok] at found
    rw [require_ok] at alive
    cases done
    have present : (db.aggregate command.executionId).row = some row := found.1
    have ended := cancelled_attempts
      ((Moved.refl db command.executionId).appendEvent appended) row.leaseToken
    have chain := @Moved.updateExecution _ _ _ _ ended
      (fun old => old.cancelled (env.clock 0)) (fun _ => rfl) row present
    obtain ⟨records, advanced⟩ := chain.records (.cancelled present alive rfl) recorded
    exact .applied records advanced (executionRow_ok.1 read)

/-! ### Errors -/

/-- No statement raises `QueueOverflowError`; only the end of a dispatch does. -/
def Silent {α : Type} (body : Except StoreError α) : Prop :=
  ∀ requestId, body ≠ .error (.queueOverflow requestId)

namespace Silent

variable {α β : Type}

theorem ok (value : α) : Silent (.ok value) := by
  intro requestId raised
  cases raised

theorem bind {first : Except StoreError α} {next : α → Except StoreError β}
    (silent : Silent first) (later : ∀ value, first = .ok value → Silent (next value)) :
    Silent (first >>= next) := by
  intro requestId raised
  rcases bind_error raised with early | ⟨value, reached, late⟩
  · exact silent requestId early
  · exact later value reached requestId late

theorem require {condition : Prop} [Decidable condition] {error : StoreError}
    (other : ∀ requestId, error ≠ .queueOverflow requestId) : Silent (require condition error) := by
  intro requestId raised
  exact other requestId (require_error raised).symm

theorem orThrow {value : Option α} {error : StoreError}
    (other : ∀ requestId, error ≠ .queueOverflow requestId) : Silent (orThrow value error) := by
  intro requestId raised
  exact other requestId (orThrow_error raised).symm

theorem appendEvent {type : String} {payload : JsonObject} :
    Silent (db.appendEvent executionId type payload now) := by
  intro requestId raised
  obtain ⟨_, other⟩ := appendEvent_error raised
  cases other

theorem insertCommand {command : ExecutionCommand} {executionId : Option ExecutionId} :
    Silent (db.insertCommand digest command executionId result now) := by
  refine .bind (.require (fun _ => nofun)) (fun _ _ => ?_)
  exact .bind (.orThrow (fun _ => nofun)) (fun _ _ => .ok _)

theorem insertExecution : Silent (db.insertExecution row) := by
  refine .bind (.require (fun _ => nofun)) (fun _ _ => ?_)
  exact .bind (.orThrow (fun _ => nofun)) (fun _ _ => .ok _)

theorem insertStarted : Silent (db.insertStarted row) := by
  intro requestId raised
  unfold Db.insertStarted at raised
  split at raised
  · cases raised
  · rename_i error failed
    split at raised
    · cases raised
      exact insertExecution requestId failed
    · cases raised

theorem insertSignal {row : SignalRow} : Silent (db.insertSignal row) := by
  refine .bind (.require (fun _ => nofun)) (fun _ _ => ?_)
  refine .bind (.require (fun _ => nofun)) (fun _ _ => ?_)
  exact .bind (.orThrow (fun _ => nofun)) (fun _ _ => .ok _)

theorem get : Silent (db.get executionId) :=
  .orThrow (fun _ => nofun)

theorem target : Silent result.target := by
  intro requestId raised
  cases result with
  | execution | signal => cases raised
  | queueOverflow => cases raised

end Silent

theorem startTransaction_silent {command : StartExecution} :
    Silent (Db.startTransaction digest env command maxQueueDepth db) := by
  unfold Db.startTransaction
  split
  · exact .bind (.require (fun _ => nofun)) (fun _ _ => .ok _)
  · split
    · exact .bind .insertCommand (fun _ _ => .ok _)
    · refine .bind .insertStarted (fun _ _ => ?_)
      refine .bind .appendEvent (fun _ _ => ?_)
      exact .bind .insertCommand (fun _ _ => .ok _)

theorem redriveTransaction_silent {command : RedriveExecution} :
    Silent (Db.redriveTransaction digest env command maxQueueDepth db) := by
  unfold Db.redriveTransaction
  split
  · exact .bind (.require (fun _ => nofun)) (fun _ _ => .ok _)
  · refine .bind (.orThrow (fun _ => nofun)) (fun _ _ => ?_)
    refine .bind (.require (fun _ => nofun)) (fun _ _ => ?_)
    split
    · exact .bind .insertCommand (fun _ _ => .ok _)
    · refine .bind .insertExecution (fun _ _ => ?_)
      refine .bind .appendEvent (fun _ _ => ?_)
      exact .bind .insertCommand (fun _ _ => .ok _)

theorem dispatchSignal_silent {command : SignalExecution} :
    Silent (Db.dispatchSignal digest env command db) := by
  unfold Db.dispatchSignal
  split
  · refine .bind (.require (fun _ => nofun)) (fun _ _ => ?_)
    refine .bind .target (fun _ _ => ?_)
    exact .bind .get (fun _ _ => .ok _)
  · refine .bind (.orThrow (fun _ => nofun)) (fun _ _ => ?_)
    refine .bind (.require (fun _ => nofun)) (fun _ _ => ?_)
    refine .bind .insertSignal (fun _ _ => ?_)
    refine .bind .appendEvent (fun _ _ => ?_)
    refine .bind .insertCommand (fun _ _ => ?_)
    exact .bind .get (fun _ _ => .ok _)

theorem dispatchCancel_silent {command : CancelExecution} :
    Silent (Db.dispatchCancel digest env command db) := by
  unfold Db.dispatchCancel
  split
  · refine .bind (.require (fun _ => nofun)) (fun _ _ => ?_)
    refine .bind .target (fun _ _ => ?_)
    exact .bind .get (fun _ _ => .ok _)
  · refine .bind (.orThrow (fun _ => nofun)) (fun _ _ => ?_)
    refine .bind (.require (fun _ => nofun)) (fun _ _ => ?_)
    refine .bind .appendEvent (fun _ _ => ?_)
    refine .bind .insertCommand (fun _ _ => ?_)
    exact .bind .get (fun _ _ => .ok _)

variable {command : ExecutionCommand}

def ExecutionCommand.Creates : ExecutionCommand → Prop
  | .start _ | .redrive _ => True
  | .signal _ | .cancel _ => False

def ExecutionCommand.overflowAnswer : ExecutionCommand → StoreError
  | .start command => .queueOverflow command.requestId
  | .redrive command => .queueOverflow command.requestId
  | .signal _ | .cancel _ => .keyError "execution_id"

def CommandRow.replay (existing : CommandRow) (command : ExecutionCommand) (db : Db) :
    Except StoreError ExecutionSnapshot :=
  match existing.result.created with
  | some executionId => db.get executionId
  | none => .error command.overflowAnswer

inductive DispatchOutcome (digest : Digest) (command : ExecutionCommand) (db : Db) :
    Except StoreError ExecutionSnapshot → Db → Prop
  | replayed {existing : CommandRow} (replays : Replays digest command db existing) :
      DispatchOutcome digest command db (existing.replay command db) db
  | recorded {db' : Db} {result : CommandResult} {executionId : ExecutionId}
      {snapshot : ExecutionSnapshot} (records : Records digest command result db db')
      (targeted : result.created = some executionId)
      (found : db'.executions.find? executionId = some snapshot) :
      DispatchOutcome digest command db (.ok snapshot) db'
  | overflowed {db' : Db} (creates : command.Creates)
      (records : Records digest command .queueOverflow db db') (only : OnlyCommands db db') :
      DispatchOutcome digest command db (.error (.queueOverflow command.requestId)) db'
  | failed {error : StoreError} (other : ∀ requestId, error ≠ .queueOverflow requestId) :
      DispatchOutcome digest command db (.error error) db

theorem replay_some (created : existing.result.created = some executionId) :
    existing.replay command db = db.get executionId := by
  unfold CommandRow.replay
  rw [created]

theorem replay_none (created : existing.result.created = none) :
    existing.replay command db = .error command.overflowAnswer := by
  unfold CommandRow.replay
  rw [created]

theorem overflowAnswer_of_creates (creates : command.Creates) :
    command.overflowAnswer = .queueOverflow command.requestId := by
  cases command with
  | start command => rfl
  | redrive command => rfl
  | signal command => cases creates
  | cancel command => cases creates

theorem target_ok {target : ExecutionId} :
    result.target = .ok target ↔ result.created = some target := by
  cases result with
  | execution executionId | signal executionId signalId | queueOverflow =>
    simp [CommandResult.target, CommandResult.created]

theorem target_error (created : result.created = none) :
    result.target = .error (.keyError "execution_id") := by
  cases result with
  | execution executionId => cases created
  | signal executionId signalId => cases created
  | queueOverflow => rfl

theorem afterCreation_outcome (creates : command.Creates)
    {body : Db → Except StoreError (Option ExecutionId × Db)}
    (silent : Silent (body db))
    (createdBy : ∀ created db', body db = .ok (created, db') →
      Created digest env command db db' created) :
    DispatchOutcome digest command db
      (Db.afterCreation command.requestId (atomically body db)).1
      (Db.afterCreation command.requestId (atomically body db)).2 := by
  unfold atomically
  cases result : body db with
  | error error =>
    exact .failed (fun requestId same => silent requestId (same ▸ result))
  | ok pair =>
    rcases pair with ⟨created, db'⟩
    have done := createdBy created db' result
    cases created with
    | none =>
      change DispatchOutcome digest command db (.error (.queueOverflow _)) db'
      generalize same : (none : Option ExecutionId) = outcome at done
      cases done with
      | replayed replays unchanged =>
        subst unchanged
        rename_i existing
        rw [← overflowAnswer_of_creates creates, ← replay_none same.symm]
        exact .replayed replays
      | overflowed records only => exact .overflowed creates records only
      | created => cases same
    | some executionId =>
      change DispatchOutcome digest command db (db'.get executionId) db'
      generalize same : some executionId = outcome at done
      cases done with
      | replayed replays unchanged =>
        subst unchanged
        rename_i existing
        rw [← replay_some same.symm]
        exact .replayed replays
      | overflowed => cases same
      | created records advanced free found =>
        cases same
        have read : db'.get ("exec_" ++ env.uuid) = .ok _ := executionRow_ok.2 found
        rw [read]
        exact .recorded records rfl found

theorem dispatch_outcome (command : ExecutionCommand) (maxQueueDepth : Int) :
    DispatchOutcome digest command db (db.dispatch digest env command maxQueueDepth).1
      (db.dispatch digest env command maxQueueDepth).2 := by
  cases command with
  | start command =>
    exact @afterCreation_outcome digest env db (.start command) trivial _
      startTransaction_silent (fun _ _ done => startTransaction_created done)
  | redrive command =>
    exact @afterCreation_outcome digest env db (.redrive command) trivial _
      redriveTransaction_silent (fun _ _ done => redriveTransaction_created done)
  | signal command =>
    unfold Db.dispatch atomically
    cases result : Db.dispatchSignal digest env command db with
    | error error =>
      simp only [result]
      exact .failed (fun requestId same => dispatchSignal_silent requestId (same ▸ result))
    | ok pair =>
      rcases pair with ⟨snapshot, db'⟩
      simp only [result]
      cases dispatchSignal_targeted result with
      | @replayed existing target replays targeted unchanged found =>
        subst unchanged
        have answer : existing.replay (.signal command) db' = .ok snapshot :=
          (replay_some (target_ok.1 targeted)).trans (executionRow_ok.2 found)
        rw [← answer]
        exact .replayed replays
      | applied records advanced found => exact .recorded records rfl found
  | cancel command =>
    unfold Db.dispatch atomically
    cases result : Db.dispatchCancel digest env command db with
    | error error =>
      simp only [result]
      exact .failed (fun requestId same => dispatchCancel_silent requestId (same ▸ result))
    | ok pair =>
      rcases pair with ⟨snapshot, db'⟩
      simp only [result]
      cases dispatchCancel_targeted result with
      | @replayed existing target replays targeted unchanged found =>
        subst unchanged
        have answer : existing.replay (.cancel command) db' = .ok snapshot :=
          (replay_some (target_ok.1 targeted)).trans (executionRow_ok.2 found)
        rw [← answer]
        exact .replayed replays
      | applied records advanced found => exact .recorded records rfl found

end AnnaAgent.Execution
