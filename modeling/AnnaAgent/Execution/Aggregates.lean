/-
What each statement of the store does to the aggregate of one execution.

`Moved id db db' aggregate` says that `db'` differs from `db` only in the rows
of execution `id`, which are now those of `aggregate`.  The rules below extend
such a fact statement by statement, in the order an operation issues them.
-/

import AnnaAgent.Execution.Lifecycle

namespace AnnaAgent.Execution

open Foundation

def Db.aggregate (db : Db) (executionId : ExecutionId) : Aggregate :=
  { row := db.executions.find? executionId
    attempts := db.attemptsOf executionId
    events := db.eventsOf executionId
    outbox := db.outboxOf executionId
    signals := db.signalsOf executionId
    effects := db.toolEffectsOf executionId }

variable {row : ExecutionRow}

theorem found_executionId {db : Db} {executionId : ExecutionId}
    (found : db.executions.find? executionId = some row) : row.executionId = executionId :=
  Table.find?_key found

variable {p q : AttemptRow → Prop}

namespace Aggregate

theorem mapAttempts_congr (aggregate : Aggregate) [DecidablePred p] [DecidablePred q]
    (assign : AttemptRow → AttemptRow) (same : ∀ row ∈ aggregate.attempts, p row ↔ q row) :
    aggregate.mapAttempts p assign = aggregate.mapAttempts q assign := by
  unfold mapAttempts
  congr 1
  apply List.map_congr_left
  intro row member
  by_cases selected : p row
  · rw [if_pos selected, if_pos ((same row member).1 selected)]
  · rw [if_neg selected, if_neg (fun other => selected ((same row member).2 other))]

@[simp] theorem acknowledge_nil (aggregate : Aggregate) (appliedAt : Time) :
    aggregate.acknowledge [] appliedAt = aggregate := by
  unfold acknowledge
  simp

end Aggregate

structure Moved (executionId : ExecutionId) (db db' : Db) (aggregate : Aggregate) : Prop where
  here : db'.aggregate executionId = aggregate
  elsewhere : ∀ other, other ≠ executionId → db'.aggregate other = db.aggregate other
  commands : db'.commands = db.commands

namespace Moved

variable {executionId : ExecutionId} {db db' db'' : Db} {aggregate : Aggregate}

theorem refl (db : Db) (executionId : ExecutionId) :
    Moved executionId db db (db.aggregate executionId) :=
  { here := rfl
    elsewhere := fun _ _ => rfl
    commands := rfl }

section

variable (moved : Moved executionId db db' aggregate)

include moved

theorem extend {aggregate' : Aggregate} (next : Moved executionId db' db'' aggregate')
    : Moved executionId db db'' aggregate' :=
  { here := next.here
    elsewhere := fun other different =>
      (next.elsewhere other different).trans (moved.elsewhere other different)
    commands := next.commands.trans moved.commands }

theorem found :
    db'.executions.find? executionId = aggregate.row := by
  rw [← moved.here]
  rfl

theorem updateExecutions {p : ExecutionRow → Prop} [DecidablePred p]
    {assign : ExecutionRow → ExecutionRow}
    {keeps : ∀ row, (assign row).executionId = row.executionId}
    (only : ∀ other, p other → other.executionId = executionId) (present : aggregate.row = some row)
    (chosen : p row) :
    Moved executionId db (db'.updateExecutions p assign keeps) (aggregate.setRow (assign row)) := by
  apply moved.extend
  constructor
  · have found : db'.executions.find? executionId = some row := moved.found.trans present
    rw [← moved.here]
    unfold Db.aggregate Aggregate.setRow
    congr 1
    change (db'.executions.update p assign keeps).find? executionId = some (assign row)
    rw [Table.find?_update, found, Option.map_some, if_pos chosen]
  · intro other different
    unfold Db.aggregate
    congr 1
    change (db'.executions.update p assign keeps).find? other = db'.executions.find? other
    rw [Table.find?_update]
    cases at_other : db'.executions.find? other with
    | none => rfl
    | some otherRow =>
      have notChosen : ¬ p otherRow := by
        intro selected
        exact different ((found_executionId at_other).symm.trans (only otherRow selected))
      rw [Option.map_some, if_neg notChosen]
  · rfl

theorem updateExecution {assign : ExecutionRow → ExecutionRow}
    {keeps : ∀ row, (assign row).executionId = row.executionId} {row : ExecutionRow}
    (present : aggregate.row = some row) :
    Moved executionId db (db'.updateExecution executionId assign keeps)
      (aggregate.setRow (assign row)) :=
  moved.updateExecutions (fun _ same => same) present
    (found_executionId (moved.found.trans present))

theorem updateAttempts [DecidablePred p] [DecidablePred q] {assign : AttemptRow → AttemptRow}
    {keeps : ∀ row, ((assign row).executionId, (assign row).attempt) = (row.executionId, row.attempt)}
    (splits : ∀ row, p row ↔ row.executionId = executionId ∧ q row) :
    Moved executionId db (db'.updateAttempts p assign keeps)
      (aggregate.mapAttempts q assign) := by
  apply moved.extend
  have stable : ∀ other (row : AttemptRow),
      (assign row).executionId = other ↔ row.executionId = other := by
    intro other row
    have sameOwner : (assign row).executionId = row.executionId := congrArg Prod.fst (keeps row)
    rw [sameOwner]
  constructor
  · rw [← moved.here]
    unfold Db.aggregate Aggregate.mapAttempts
    congr 1
    change (db'.attempts.update p assign keeps).select _ = _
    rw [Table.select_update _ _ _ _ _ (stable executionId)]
    apply List.map_congr_left
    intro row member
    have owned : row.executionId = executionId := ((Table.mem_select _).1 member).2
    by_cases selected : q row
    · rw [if_pos selected, if_pos ((splits row).2 ⟨owned, selected⟩)]
    · rw [if_neg selected, if_neg (fun both => selected ((splits row).1 both).2)]
  · intro other different
    unfold Db.aggregate
    congr 1
    change (db'.attempts.update p assign keeps).select _ = _
    apply Table.select_update_of_disjoint _ _ _ _ _ (stable other)
    intro row _member owned selected
    exact different (owned.symm.trans ((splits row).1 selected).1)
  · rfl

theorem setAttemptByToken (leaseToken : Nat) (status : AttemptStatus) :
    Moved executionId db (db'.setAttemptByToken executionId leaseToken status)
      (aggregate.mapAttempts (fun attempt => attempt.leaseToken = leaseToken)
        (fun attempt => { attempt with status := status })) :=
  moved.updateAttempts (fun _ => Iff.rfl)

theorem setAttemptByNumber (attempt : Nat) (status : AttemptStatus) :
    Moved executionId db (db'.setAttemptByNumber executionId attempt status)
      (aggregate.mapAttempts (fun row => row.attempt = attempt)
        (fun row => { row with status := status })) :=
  moved.updateAttempts (fun _ => Iff.rfl)

end

private theorem select_inserted {κ ρ : Type} {key : ρ → κ} [DecidableEq κ]
    {table table' : Table κ ρ key} {row : ρ} (owner : ρ → ExecutionId)
    (inserted : table.insert? row = some table') (other : ExecutionId) :
    table'.select (fun candidate => owner candidate = other) =
      table.select (fun candidate => owner candidate = other) ++
        if owner row = other then [row] else [] :=
  Table.select_insert? inserted _

theorem insertAttempt (moved : Moved executionId db db' aggregate) {row : AttemptRow}
    (owned : row.executionId = executionId) (inserted : db'.insertAttempt row = .ok db'') :
    Moved executionId db db'' (aggregate.addAttempt row) := by
  apply moved.extend
  unfold Db.insertAttempt at inserted
  obtain ⟨_, _, inserted⟩ := bind_ok inserted
  obtain ⟨attempts, taken, inserted⟩ := bind_ok inserted
  rw [orThrow_ok] at taken
  cases inserted
  constructor
  · rw [← moved.here]
    unfold Db.aggregate Aggregate.addAttempt
    congr 1
    change attempts.select _ = _
    rw [select_inserted AttemptRow.executionId taken, if_pos owned]
    rfl
  · intro other different
    unfold Db.aggregate
    congr 1
    change attempts.select _ = _
    rw [select_inserted AttemptRow.executionId taken,
      if_neg (fun same => different (same.symm.trans owned)), List.append_nil]
    rfl
  · rfl

theorem appendEvent_ok {type : String} {payload : JsonObject} {now : Time}
    (appended : db'.appendEvent executionId type payload now = .ok db'') :
    ∃ events outbox,
      db'.events.insert?
        { executionId := executionId, seq := db'.maxSeq executionId + 1, type := type,
          payload := payload, createdAt := now } = some events ∧
      db'.outbox.insert?
        { id := db'.nextOutboxId, executionId := executionId,
          seq := db'.maxSeq executionId + 1, type := type, payload := payload,
          createdAt := now } = some outbox ∧
      db'' = { db' with events := events, outbox := outbox } := by
  unfold Db.appendEvent at appended
  obtain ⟨_, _, appended⟩ := bind_ok appended
  obtain ⟨events, eventsTaken, appended⟩ := bind_ok appended
  obtain ⟨_, _, appended⟩ := bind_ok appended
  obtain ⟨outbox, outboxTaken, appended⟩ := bind_ok appended
  rw [orThrow_ok] at eventsTaken outboxTaken
  cases appended
  exact ⟨events, outbox, eventsTaken, outboxTaken, rfl⟩

theorem appendEvent (moved : Moved executionId db db' aggregate) {type : String}
    {payload : JsonObject} {now : Time}
    (appended : db'.appendEvent executionId type payload now = .ok db'') :
    Moved executionId db db''
      (aggregate.emit executionId
        { type := type, payload := payload, createdAt := now,
          outboxId := db'.nextOutboxId }) := by
  apply moved.extend
  obtain ⟨events, outbox, eventsTaken, outboxTaken, same⟩ := appendEvent_ok appended
  subst same
  constructor
  · rw [← moved.here]
    unfold Db.aggregate Aggregate.emit
    congr 1
    · change events.select _ = _
      rw [select_inserted EventRow.executionId eventsTaken, if_pos rfl]
      rfl
    · change outbox.select _ = _
      rw [select_inserted OutboxRow.executionId outboxTaken, if_pos rfl]
      rfl
  · intro other different
    unfold Db.aggregate
    congr 1
    · change events.select _ = _
      rw [select_inserted EventRow.executionId eventsTaken,
        if_neg (fun same => different same.symm), List.append_nil]
      rfl
    · change outbox.select _ = _
      rw [select_inserted OutboxRow.executionId outboxTaken,
        if_neg (fun same => different same.symm), List.append_nil]
      rfl
  · rfl

theorem insertSignal (moved : Moved executionId db db' aggregate) {row : SignalRow}
    (owned : row.executionId = executionId) (inserted : db'.insertSignal row = .ok db'') :
    Moved executionId db db'' (aggregate.addSignal row) := by
  apply moved.extend
  unfold Db.insertSignal at inserted
  obtain ⟨_, _, inserted⟩ := bind_ok inserted
  obtain ⟨_, _, inserted⟩ := bind_ok inserted
  obtain ⟨signals, taken, inserted⟩ := bind_ok inserted
  rw [orThrow_ok] at taken
  cases inserted
  constructor
  · rw [← moved.here]
    unfold Db.aggregate Aggregate.addSignal
    congr 1
    change signals.select _ = _
    rw [select_inserted SignalRow.executionId taken, if_pos owned]
    rfl
  · intro other different
    unfold Db.aggregate
    congr 1
    change signals.select _ = _
    rw [select_inserted SignalRow.executionId taken,
      if_neg (fun same => different (same.symm.trans owned)), List.append_nil]
    rfl
  · rfl

private theorem updateSignals (moved : Moved executionId db db' aggregate)
    {p q : SignalRow → Prop} [DecidablePred p] [DecidablePred q]
    {assign : SignalRow → SignalRow} {keeps : ∀ row, (assign row).signalId = row.signalId}
    (sameOwner : ∀ row, (assign row).executionId = row.executionId)
    (splits : ∀ row, p row ↔ row.executionId = executionId ∧ q row) :
    Moved executionId db (db'.updateSignals p assign keeps)
      { aggregate with
        signals := aggregate.signals.map (fun row => if q row then assign row else row) } := by
  apply moved.extend
  have stable : ∀ other (row : SignalRow),
      (assign row).executionId = other ↔ row.executionId = other := by
    intro other row
    rw [sameOwner]
  constructor
  · rw [← moved.here]
    unfold Db.aggregate
    congr 1
    change (db'.signals.update p assign keeps).select _ = _
    rw [Table.select_update _ _ _ _ _ (stable executionId)]
    apply List.map_congr_left
    intro row member
    have owned : row.executionId = executionId := ((Table.mem_select _).1 member).2
    by_cases selected : q row
    · rw [if_pos selected, if_pos ((splits row).2 ⟨owned, selected⟩)]
    · rw [if_neg selected, if_neg (fun both => selected ((splits row).1 both).2)]
  · intro other different
    unfold Db.aggregate
    congr 1
    change (db'.signals.update p assign keeps).select _ = _
    apply Table.select_update_of_disjoint _ _ _ _ _ (stable other)
    intro row _member owned selected
    exact different (owned.symm.trans ((splits row).1 selected).1)
  · rfl

private theorem acknowledge_cons (aggregate : Aggregate) (head : SignalId)
    (tail : List SignalId) (appliedAt : Time) :
    (aggregate.acknowledge [head] appliedAt).acknowledge tail appliedAt =
      aggregate.acknowledge (head :: tail) appliedAt := by
  unfold Aggregate.acknowledge
  congr 1
  rw [List.map_map]
  apply List.map_congr_left
  intro signal _member
  by_cases unapplied : signal.appliedAt = none
  · by_cases atHead : signal.signalId = head
    · simp [unapplied, atHead]
    · simp [unapplied, atHead]
  · simp [unapplied]

theorem ackSignalIds (moved : Moved executionId db db' aggregate) (signalIds : List SignalId)
    (appliedAt : Time) :
    Moved executionId db (db'.ackSignalIds executionId signalIds appliedAt)
      (aggregate.acknowledge signalIds appliedAt) := by
  induction signalIds generalizing db' aggregate with
  | nil =>
    rw [Aggregate.acknowledge_nil]
    exact moved
  | cons head tail ih =>
    rw [← acknowledge_cons]
    apply ih
    unfold Aggregate.acknowledge
    exact moved.updateSignals (fun _ => rfl) (fun row => by rw [List.mem_singleton])

theorem insertExecution_ok (inserted : db'.insertExecution row = .ok db'') :
    (row.status.active = true → (db'.activeOn row.workspaceId row.subjectRef).isEmpty = true) ∧
      ∃ executions, db'.executions.insert? row = some executions ∧
        db'' = { db' with executions := executions } := by
  unfold Db.insertExecution at inserted
  obtain ⟨_, free, inserted⟩ := bind_ok inserted
  obtain ⟨executions, taken, inserted⟩ := bind_ok inserted
  rw [require_ok] at free
  rw [orThrow_ok] at taken
  cases inserted
  exact ⟨free, executions, taken, rfl⟩

theorem insertExecution (moved : Moved executionId db db' aggregate)
    (owned : row.executionId = executionId) (inserted : db'.insertExecution row = .ok db'') :
    aggregate.row = none ∧ Moved executionId db db'' (aggregate.setRow row) := by
  obtain ⟨_, executions, taken, same⟩ := insertExecution_ok inserted
  subst same
  have absent := Table.insert?_fresh taken
  rw [owned] at absent
  refine ⟨moved.found.symm.trans absent, moved.extend ?_⟩
  constructor
  · rw [← moved.here]
    unfold Db.aggregate Aggregate.setRow
    congr 1
    change executions.find? executionId = some row
    rw [Table.find?_insert? taken, if_pos owned]
  · intro other different
    unfold Db.aggregate
    congr 1
    change executions.find? other = db'.executions.find? other
    rw [Table.find?_insert? taken, if_neg (fun same => different (same.symm.trans owned))]
  · rfl

theorem putCheckpoint (moved : Moved executionId db db' aggregate) {row : CheckpointRow}
    (stored : db'.putCheckpoint row = .ok db'') : Moved executionId db db'' aggregate := by
  apply moved.extend
  rw [← moved.here]
  unfold Db.putCheckpoint at stored
  obtain ⟨_, _, stored⟩ := bind_ok stored
  split at stored
  · cases stored
    exact ⟨rfl, fun _ _ => rfl, rfl⟩
  · cases stored
    exact ⟨rfl, fun _ _ => rfl, rfl⟩

end Moved

end AnnaAgent.Execution
