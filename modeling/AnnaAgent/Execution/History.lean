/-
What no step takes back.

An execution keeps its identity, its lease token never decreases, its log only
grows, and once its status is terminal neither its row nor its log changes.
-/

import AnnaAgent.Execution.Refinement

namespace AnnaAgent.Execution

open Foundation

/-- The columns no update assigns, and the token that never decreases. -/
structure ExecutionRow.Continues (later earlier : ExecutionRow) : Prop where
  executionId : later.executionId = earlier.executionId
  workspaceId : later.workspaceId = earlier.workspaceId
  subjectRef : later.subjectRef = earlier.subjectRef
  createdAt : later.createdAt = earlier.createdAt
  leaseToken : earlier.leaseToken ≤ later.leaseToken

theorem ExecutionRow.Continues.refl (row : ExecutionRow) : row.Continues row :=
  ⟨rfl, rfl, rfl, rfl, le_rfl⟩

theorem ExecutionRow.Continues.trans {first second third : ExecutionRow}
    (late : third.Continues second) (early : second.Continues first) : third.Continues first :=
  { executionId := late.executionId.trans early.executionId
    workspaceId := late.workspaceId.trans early.workspaceId
    subjectRef := late.subjectRef.trans early.subjectRef
    createdAt := late.createdAt.trans early.createdAt
    leaseToken := early.leaseToken.trans late.leaseToken }

/-- `later` is what some run made of `earlier`. -/
structure Aggregate.Follows (later earlier : Aggregate) : Prop where
  rows : ∀ row, earlier.row = some row → ∃ row', later.row = some row' ∧ row'.Continues row
  log : earlier.events <+: later.events
  frozen : ∀ row, earlier.row = some row → row.status.terminal = true →
    later.row = some row ∧ later.events = earlier.events

variable {row : ExecutionRow}

namespace Aggregate.Follows

theorem refl (aggregate : Aggregate) : aggregate.Follows aggregate :=
  { rows := fun row present => ⟨row, present, .refl row⟩
    log := List.prefix_rfl
    frozen := fun _ present _ => ⟨present, rfl⟩ }

theorem trans {first second third : Aggregate} (late : third.Follows second)
    (early : second.Follows first) : third.Follows first := by
  constructor
  · intro row present
    obtain ⟨middle, middlePresent, middleContinues⟩ := early.rows row present
    obtain ⟨last, lastPresent, lastContinues⟩ := late.rows middle middlePresent
    exact ⟨last, lastPresent, lastContinues.trans middleContinues⟩
  · exact early.log.trans late.log
  · intro row present ended
    obtain ⟨stillPresent, sameLog⟩ := early.frozen row present ended
    obtain ⟨lastPresent, lastLog⟩ := late.frozen row stillPresent ended
    exact ⟨lastPresent, lastLog.trans sameLog⟩

theorem of_same {earlier later : Aggregate} (sameRow : later.row = earlier.row)
    (sameLog : later.events = earlier.events) : later.Follows earlier :=
  { rows := fun row present => ⟨row, sameRow.trans present, .refl row⟩
    log := sameLog ▸ List.prefix_rfl
    frozen := fun _ present _ => ⟨sameRow.trans present, sameLog⟩ }

theorem of_alive {earlier later : Aggregate} {row' : ExecutionRow}
    (present : earlier.row = some row) (alive : row.status.terminal = false)
    (replaced : later.row = some row') (continues : row'.Continues row)
    (log : earlier.events <+: later.events) : later.Follows earlier := by
  constructor
  · intro other otherPresent
    rw [present] at otherPresent
    cases otherPresent
    exact ⟨row', replaced, continues⟩
  · exact log
  · intro other otherPresent ended
    rw [present] at otherPresent
    cases otherPresent
    rw [alive] at ended
    cases ended

end Aggregate.Follows

theorem Aggregate.emit_log (aggregate : Aggregate) (executionId : ExecutionId)
    (emission : Emission) : aggregate.events <+: (aggregate.emit executionId emission).events :=
  List.prefix_append _ _

theorem Aggregate.emitAll_log (aggregate : Aggregate) (executionId : ExecutionId)
    (emissions : List Emission) :
    aggregate.events <+: (aggregate.emitAll executionId emissions).events := by
  induction emissions generalizing aggregate with
  | nil => exact List.prefix_rfl
  | cons head tail ih =>
    exact (aggregate.emit_log executionId head).trans (ih (aggregate.emit executionId head))

theorem alive_of_running (running : row.status = .running) :
    row.status.terminal = false := by
  rw [running]
  rfl

theorem ReleaseKind.Lease.running {kind : ReleaseKind} {now : Time} (lease : kind.Lease row now) :
    row.status = .running := by
  unfold ReleaseKind.Lease at lease
  split at lease
  · exact lease.1
  · rcases lease with ⟨_, held⟩
    exact held.1

variable {executionId : ExecutionId}

theorem Transition.follows {before after : Aggregate} {label : Label}
    (step : Transition executionId before label after) : after.Follows before := by
  cases step with
  | started absent queued unclaimed free named =>
    constructor
    · intro row present
      rw [absent] at present
      cases present
    · exact Aggregate.emit_log _ _ _
    · intro row present
      rw [absent] at present
      cases present
  | signaled present alive unapplied named | cancelled present alive named =>
    exact .of_alive present alive rfl ⟨rfl, rfl, rfl, rfl, le_rfl⟩ (Aggregate.emit_log _ _ _)
  | claimed present idle named =>
    refine .of_alive present ?_ rfl ⟨rfl, rfl, rfl, rfl, Nat.le_succ _⟩ (Aggregate.emit_log _ _ _)
    rcases idle with queued | ⟨awaiting, _⟩
    · rw [queued]
      rfl
    · rw [awaiting]
      rfl
  | reclaimed present lapsed safe expiryNamed named =>
    exact .of_alive present (alive_of_running lapsed.1) rfl
      ⟨rfl, rfl, rfl, rfl, Nat.le_succ _⟩
      ((Aggregate.emit_log _ _ _).trans (Aggregate.emit_log _ _ _))
  | renewed present held =>
    exact .of_alive present (alive_of_running held.1) rfl ⟨rfl, rfl, rfl, rfl, le_rfl⟩
      List.prefix_rfl
  | merged present held allowed settled plain emitted =>
    exact .of_alive present (alive_of_running held.1) rfl ⟨rfl, rfl, rfl, rfl, le_rfl⟩
      (Aggregate.emitAll_log _ _ _)
  | released present lease guarded named =>
    exact .of_alive present (alive_of_running lease.running) rfl ⟨rfl, rfl, rfl, rfl, le_rfl⟩
      (Aggregate.emit_log _ _ _)
  | effectRecorded | outboxClaimed chosen | outboxDelivered => exact .of_same rfl rfl

theorem Transition.absent {before after : Aggregate} {label : Label}
    (step : Transition executionId before label after) (notStarted : label ≠ .started)
    (absent : before.row = none) : after.row = none := by
  cases step with
  | started => exact absurd rfl notStarted
  | signaled present | cancelled present | claimed present | reclaimed present | renewed present
  | merged present | released present =>
    rw [absent] at present
    cases present
  | effectRecorded | outboxClaimed | outboxDelivered => exact absent

theorem run_follows {digest : Digest} {first last : Db} {trace : List (Move Db Performed)}
    (run : Run (Step digest) first trace last) (executionId : ExecutionId) :
    (last.aggregate executionId).Follows (first.aggregate executionId) :=
  aggregate_relates run executionId (fun earlier later => later.Follows earlier) .refl
    (fun early late => late.trans early) (fun _ _ _ step => step.follows)

end AnnaAgent.Execution
