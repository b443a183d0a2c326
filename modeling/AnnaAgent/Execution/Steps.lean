/-
The transactions of one step.

`Advanced id label db db'` says that a transaction moved execution `id` along
one transition and left the other executions alone.  Each lemma below takes a
successful operation apart and names the step it took; a stale heartbeat takes
none.
-/

import AnnaAgent.Execution.Aggregates
import AnnaAgent.Execution.System

namespace AnnaAgent.Execution

open Foundation

/-- One step of one execution; recorded commands stay. -/
structure Advanced (executionId : ExecutionId) (label : Label) (db db' : Db) : Prop where
  here : Transition executionId (db.aggregate executionId) label (db'.aggregate executionId)
  elsewhere : ∀ other, other ≠ executionId → db'.aggregate other = db.aggregate other
  commands : ∀ key row, db.commands.find? key = some row → db'.commands.find? key = some row

/-- Every execution moved along allowed transitions; recorded commands stay. -/
structure Traced (allows : ExecutionId → Label → Prop) (db db' : Db) : Prop where
  moves : ∀ executionId, ∃ trace,
    Run (Transition executionId) (db.aggregate executionId) trace (db'.aggregate executionId) ∧
      ∀ move ∈ trace, allows executionId move.label
  commands : ∀ key row, db.commands.find? key = some row → db'.commands.find? key = some row

namespace Traced

variable {allows : ExecutionId → Label → Prop} {db db' db'' : Db}

theorem refl (db : Db) : Traced allows db db :=
  { moves := fun _ => ⟨[], .nil _, fun _ member => absurd member List.not_mem_nil⟩
    commands := fun _ _ found => found }

theorem trans (first : Traced allows db db') (second : Traced allows db' db'') :
    Traced allows db db'' := by
  constructor
  · intro executionId
    obtain ⟨early, start, earlyAllowed⟩ := first.moves executionId
    obtain ⟨late, finish, lateAllowed⟩ := second.moves executionId
    refine ⟨early ++ late, start.append finish, ?_⟩
    intro move member
    rcases List.mem_append.1 member with inEarly | inLate
    · exact earlyAllowed move inEarly
    · exact lateAllowed move inLate
  · intro key row found
    exact second.commands key row (first.commands key row found)

theorem mono {wider : ExecutionId → Label → Prop} (traced : Traced allows db db')
    (widens : ∀ executionId label, allows executionId label → wider executionId label) :
    Traced wider db db' := by
  constructor
  · intro executionId
    obtain ⟨trace, run, allowed⟩ := traced.moves executionId
    exact ⟨trace, run, fun move member => widens _ _ (allowed move member)⟩
  · exact traced.commands

theorem of_same (aggregates : ∀ executionId, db'.aggregate executionId = db.aggregate executionId)
    (commands : ∀ key row, db.commands.find? key = some row →
      db'.commands.find? key = some row) : Traced allows db db' := by
  constructor
  · intro executionId
    rw [aggregates executionId]
    exact ⟨[], .nil _, fun _ member => absurd member List.not_mem_nil⟩
  · exact commands

theorem of_steps
    (steps : ∀ executionId, db'.aggregate executionId = db.aggregate executionId ∨
      ∃ label, allows executionId label ∧
        Transition executionId (db.aggregate executionId) label (db'.aggregate executionId))
    (commands : db'.commands = db.commands) : Traced allows db db' := by
  constructor
  · intro executionId
    rcases steps executionId with same | ⟨label, allowed, step⟩
    · rw [same]
      exact ⟨[], .nil _, fun _ member => absurd member List.not_mem_nil⟩
    · refine ⟨_, .single step, ?_⟩
      intro move member
      rw [List.mem_singleton.1 member]
      exact allowed
  · intro key row found
    exact commands ▸ found

end Traced

variable {allows : ExecutionId → Label → Prop}

namespace Advanced

variable {executionId : ExecutionId} {label : Label} {db db' db'' : Db}

theorem traced (advanced : Advanced executionId label db db') (allowed : allows executionId label) :
    Traced allows db db' := by
  constructor
  · intro other
    by_cases same : other = executionId
    · subst same
      refine ⟨_, .single advanced.here, ?_⟩
      intro move member
      rw [List.mem_singleton.1 member]
      exact allowed
    · rw [advanced.elsewhere other same]
      exact ⟨[], .nil _, fun _ member => absurd member List.not_mem_nil⟩
  · exact advanced.commands

theorem followed (advanced : Advanced executionId label db db')
    (aggregates : ∀ other, db''.aggregate other = db'.aggregate other)
    (commands : ∀ key row, db'.commands.find? key = some row →
      db''.commands.find? key = some row) : Advanced executionId label db db'' :=
  { here := aggregates executionId ▸ advanced.here
    elsewhere := fun other different =>
      (aggregates other).trans (advanced.elsewhere other different)
    commands := fun key row found => commands key row (advanced.commands key row found) }

end Advanced

variable {aggregate : Aggregate}

theorem Moved.advanced {executionId : ExecutionId} {label : Label} {db db' : Db}
    (moved : Moved executionId db db' aggregate)
    (step : Transition executionId (db.aggregate executionId) label aggregate) :
    Advanced executionId label db db' :=
  { here := moved.here ▸ step
    elsewhere := moved.elsewhere
    commands := fun _ _ found => moved.commands ▸ found }

theorem executionRow_ok {db : Db} {executionId : ExecutionId} {row : ExecutionRow} :
    db.executionRow executionId = .ok row ↔ db.executions.find? executionId = some row :=
  orThrow_ok

theorem executionRowIn_ok {db : Db} {executionId : ExecutionId} {workspaceId : WorkspaceId}
    {row : ExecutionRow} :
    db.executionRowIn executionId workspaceId = .ok row ↔
      db.executions.find? executionId = some row ∧ row.workspaceId = workspaceId := by
  unfold Db.executionRowIn
  rw [orThrow_ok, Option.filter_eq_some_iff, decide_eq_true_iff]

variable {value : Unit}

theorem assertFence_ok {row : ExecutionRow} {ownerId : String} {leaseToken : Nat} {now : Time} :
    assertFence row ownerId leaseToken now = .ok value ↔ row.Fenced ownerId leaseToken now :=
  require_ok

/-- The lease is the current one and has not run out. -/
def Db.Holds (db : Db) (executionId : ExecutionId) (ownerId : String) (leaseToken : Nat)
    (now : Time) : Prop :=
  ∃ row, db.executions.find? executionId = some row ∧ row.Fenced ownerId leaseToken now

theorem ExecutionRow.Fenced.current {row : ExecutionRow} {ownerId : String} {leaseToken : Nat} {now : Time}
    (fenced : row.Fenced ownerId leaseToken now) : row.leaseToken = leaseToken :=
  fenced.2.2.1

variable {kind : ReleaseKind}

theorem Transition.released_plain {executionId : ExecutionId} {before : Aggregate}
    {row : ExecutionRow} {now : Time} {notBefore : Option Time} {lastErrorCode : Option String}
    {emission : Emission} {p : AttemptRow → Prop} [DecidablePred p]
    (consumesNothing : kind.consumed = [])
    (selects : ∀ attempt, kind.Selects row attempt ↔ p attempt) (present : before.row = some row)
    (lease : kind.Lease row now) (guarded : kind.Guard before row)
    (named : emission.type = kind.eventType) :
    Transition executionId before (.released kind)
      (((before.mapAttempts p
        (fun attempt => { attempt with status := kind.attemptStatus })).setRow
        { row.released kind.status now with
          notBefore := notBefore, lastErrorCode := lastErrorCode }).emit executionId emission) := by
  have step := @Transition.released executionId before row kind now notBefore lastErrorCode
    emission present lease guarded named
  rw [consumesNothing, Aggregate.acknowledge_nil,
    Aggregate.mapAttempts_congr before _ (fun attempt _ => selects attempt)] at step
  exact step

variable {maxAttempts : Int} {message : String} {errorCode reason : String}
  {signalIds : List SignalId}

section Releases

variable {executionId : ExecutionId} {db db' : Db} {row : ExecutionRow} {ownerId : String}
  {leaseToken : Nat} {now eventAt : Time}

private theorem selects_token (inTime : kind.lapsed = false) (attempt : AttemptRow) :
    kind.Selects row attempt ↔ attempt.leaseToken = row.leaseToken := by
  unfold ReleaseKind.Selects
  rw [if_neg (by rw [inTime]; exact Bool.false_ne_true)]

private theorem selects_number (late : kind.lapsed = true) (attempt : AttemptRow) :
    kind.Selects row attempt ↔ attempt.attempt = row.attempt := by
  unfold ReleaseKind.Selects
  rw [if_pos late]

private theorem lease_held (inTime : kind.lapsed = false) (held : row.Fenced ownerId leaseToken now) :
    kind.Lease row now := by
  unfold ReleaseKind.Lease
  rw [if_neg (by rw [inTime]; exact Bool.false_ne_true), held.current]
  exact ⟨ownerId, held⟩

private theorem lease_lapsed (late : kind.lapsed = true) (lapsed : row.Lapsed now) :
    kind.Lease row now := by
  unfold ReleaseKind.Lease
  rw [if_pos late]
  exact lapsed

section

variable (found : db.executions.find? executionId = some row)

include found

private theorem started_at :
    Moved row.executionId db db (db.aggregate row.executionId) ∧
      (db.aggregate row.executionId).row = some row := by
  rw [found_executionId found]
  exact ⟨.refl db executionId, found⟩

theorem blockExpiredRunningForRecovery_advanced (lapsed : row.Lapsed now)
    (blocked : db.hasRecoveryBlockingEffect row.executionId = true)
    (done : db.blockExpiredRunningForRecovery row now eventAt = .ok db') :
    Advanced row.executionId (.released .blockedLapsed) db db' := by
  obtain ⟨moved, present⟩ := started_at found
  have chain := ((moved.setAttemptByNumber row.attempt .interrupted).updateExecution
    present).appendEvent done
  exact chain.advanced (.released_plain rfl (selects_number rfl) present
    (lease_lapsed rfl lapsed) blocked rfl)

theorem blockClaimedForManualRecovery_advanced (held : row.Fenced ownerId leaseToken now)
    (blocked : db.hasRecoveryBlockingEffect row.executionId = true)
    (done : db.blockClaimedForManualRecovery row ownerId leaseToken now eventAt = .ok db') :
    Advanced row.executionId (.released .blockedClaimed) db db' := by
  obtain ⟨moved, present⟩ := started_at found
  obtain rfl := held.current
  have chain := ((moved.setAttemptByToken row.leaseToken .awaitingSignal).updateExecution
    present).appendEvent done
  exact chain.advanced (.released_plain rfl (selects_token rfl) present
    (lease_held rfl held) blocked rfl)

theorem deadLetterClaimedRow_advanced (held : row.Fenced ownerId leaseToken now)
    (done : db.deadLetterClaimedRow row ownerId leaseToken reason errorCode message maxAttempts now eventAt = .ok db') :
    Advanced row.executionId (.released .deadLettered) db db' := by
  obtain ⟨moved, present⟩ := started_at found
  obtain rfl := held.current
  have chain := ((moved.setAttemptByToken row.leaseToken .failed).updateExecution
    present).appendEvent done
  exact chain.advanced (.released_plain rfl (selects_token rfl) present
    (lease_held rfl held) trivial rfl)

theorem scheduleRetryRow_advanced {notBefore : Time} (held : row.Fenced ownerId leaseToken now)
    (safe : db.hasRecoveryBlockingEffect row.executionId = false)
    (within : ¬ maxAttempts ≤ row.attempt)
    (done : db.scheduleRetryRow row leaseToken reason errorCode message notBefore maxAttempts now eventAt = .ok db') :
    Advanced row.executionId (.released (.retried maxAttempts)) db db' := by
  obtain ⟨moved, present⟩ := started_at found
  obtain rfl := held.current
  have chain := ((moved.setAttemptByToken row.leaseToken .queued).updateExecution
    present).appendEvent done
  exact chain.advanced (.released_plain rfl (selects_token rfl) present
    (lease_held rfl held) ⟨safe, not_le.1 within⟩ rfl)

theorem requeueLapsedRow_advanced (lapsed : row.Lapsed now)
    (safe : db.hasRecoveryBlockingEffect row.executionId = false)
    (done : db.requeueLapsedRow row now eventAt = .ok db') :
    Advanced row.executionId (.released .requeuedLapsed) db db' := by
  obtain ⟨moved, present⟩ := started_at found
  have chain := ((moved.setAttemptByNumber row.attempt .expired).updateExecution
    present).appendEvent done
  exact chain.advanced (.released_plain rfl (selects_number rfl) present
    (lease_lapsed rfl lapsed) safe rfl)

theorem deferLoopResult_advanced {result : LoopResult} {lateSignals : List SignalRow}
    (held : row.Fenced ownerId leaseToken now) (ended : result.status.terminal = true)
    (late : ∃ signal ∈ db.pendingSignals row.executionId, signal.signalId ∉ signalIds)
    (done : db.deferLoopResult row ownerId leaseToken result signalIds lateSignals now eventAt = .ok db') :
    Advanced row.executionId (.released (.deferred result signalIds)) db db' := by
  obtain ⟨moved, present⟩ := started_at found
  obtain rfl := held.current
  have chain := (((moved.ackSignalIds signalIds now).setAttemptByToken row.leaseToken
    .queued).updateExecution present).appendEvent done
  have selects : ∀ attempt, attempt.leaseToken = row.leaseToken ↔
      (ReleaseKind.deferred result signalIds).Selects row attempt :=
    fun attempt => (selects_token rfl attempt).symm
  rw [Aggregate.mapAttempts_congr _ _ (fun attempt _ => selects attempt)] at chain
  exact chain.advanced (.released present (lease_held rfl held) ⟨ended, late⟩ rfl)

end

end Releases

/-! ### `commit_loop_result` -/

section Commit

variable {executionId : ExecutionId} {db db' db'' : Db} {env : Env} {ownerId : String}
  {leaseToken : Nat} {result : LoopResult}

theorem appendLoopEvents_moved {tick : Nat} {events : List (String × JsonObject)}
    (moved : Moved executionId db db' aggregate)
    (done : Db.appendLoopEvents env executionId tick events db' = .ok db'') :
    ∃ emissions, emissions.map Emission.content = events ∧
      (∀ event ∈ events, event.1 ∉ terminalEventTypes) ∧
      Moved executionId db db'' (aggregate.emitAll executionId emissions) := by
  induction events generalizing tick db' aggregate with
  | nil =>
    cases done
    exact ⟨[], rfl, fun _ member => absurd member List.not_mem_nil, moved⟩
  | cons event rest ih =>
    rcases event with ⟨type, payload⟩
    obtain ⟨_, checked, done⟩ := bind_ok done
    obtain ⟨middle, appended, done⟩ := bind_ok done
    rw [require_ok] at checked
    obtain ⟨emissions, contents, plain, chain⟩ := ih (moved.appendEvent appended) done
    refine ⟨_ :: emissions, ?_, ?_, chain⟩
    · rw [List.map_cons, contents]
      rfl
    · intro event member
      rcases List.mem_cons.1 member with atHead | inRest
      · rw [atHead]
        exact checked
      · exact plain event inRest

theorem closeLoopEvents_moved (moved : Moved executionId db db' aggregate)
    (done : Db.closeLoopEvents env db' executionId result = .ok db'') :
    ∃ emissions, emissions.map Emission.content = closingEvents result ∧
      Moved executionId db db'' (aggregate.emitAll executionId emissions) := by
  unfold Db.closeLoopEvents at done
  unfold closingEvents
  by_cases ended : result.status.terminal = true
  · rw [if_pos ended] at done ⊢
    have chain := moved.appendEvent done
    exact ⟨[_], rfl, chain⟩
  · rw [if_neg ended] at done ⊢
    cases done
    exact ⟨[], rfl, moved⟩

theorem lateSignals_isEmpty_eq_false (db : Db) (executionId : ExecutionId)
    (signalIds : List SignalId) :
    (db.pendingSignalRowsExcluding executionId signalIds).isEmpty = false ↔
      ∃ signal ∈ db.pendingSignals executionId, signal.signalId ∉ signalIds := by
  unfold Db.pendingSignalRowsExcluding
  rw [List.isEmpty_eq_false_iff_exists_mem]
  constructor
  · rintro ⟨signal, member⟩
    rw [List.mem_insertionSort, List.mem_filter, decide_eq_true_iff] at member
    exact ⟨signal, member⟩
  · rintro ⟨signal, pending, unlisted⟩
    refine ⟨signal, ?_⟩
    rw [List.mem_insertionSort, List.mem_filter, decide_eq_true_iff]
    exact ⟨pending, unlisted⟩

theorem mergeLoopResult_advanced {row : ExecutionRow} {now : Time}
    (found : db.executions.find? executionId = some row) (held : row.Fenced ownerId leaseToken now)
    (allowed : result.status ≠ .cancelled)
    (settled : result.status.terminal = true → ∀ signal ∈ db.pendingSignals row.executionId, signal.signalId ∈ signalIds)
    (done : db.mergeLoopResult env row ownerId leaseToken result signalIds now = .ok db') :
    Advanced row.executionId (.merged result signalIds) db db' := by
  obtain ⟨moved, present⟩ := started_at found
  obtain rfl := held.current
  obtain ⟨looped, appended, done⟩ := bind_ok done
  obtain ⟨closed, closing, done⟩ := bind_ok done
  obtain ⟨stored, storing, done⟩ := bind_ok done
  cases done
  obtain ⟨emissions, contents, plain, chain⟩ := appendLoopEvents_moved moved appended
  obtain ⟨last, lastContents, closedMoved⟩ := closeLoopEvents_moved chain closing
  rw [← Aggregate.emitAll_append] at closedMoved
  have allContents : (emissions ++ last).map Emission.content =
      result.events ++ closingEvents result := by
    rw [List.map_append, contents, lastContents]
  have presentClosed :
      ((db.aggregate row.executionId).emitAll row.executionId (emissions ++ last)).row = some row :=
    (Aggregate.emitAll_row _ _ _).trans present
  have finished := (((closedMoved.setAttemptByToken row.leaseToken
    result.status.attempt).updateExecution presentClosed).putCheckpoint storing).ackSignalIds
    signalIds now
  exact finished.advanced (.merged present held allowed settled plain allContents)

theorem commitLoopResult_advanced {signalIds : Option (List SignalId)}
    {snapshot : ExecutionSnapshot}
    (done : Db.commitLoopResult env executionId ownerId leaseToken result signalIds db =
      .ok (snapshot, db')) :
    db.Holds executionId ownerId leaseToken env.now ∧
      (Advanced executionId (.merged result (signalIds.getD result.appliedSignalIds)) db db' ∨
        Advanced executionId
          (.released (.deferred result (signalIds.getD result.appliedSignalIds))) db db') := by
  obtain ⟨_, validated, done⟩ := bind_ok done
  obtain ⟨row, found, done⟩ := bind_ok done
  obtain ⟨_, fenced, done⟩ := bind_ok done
  obtain ⟨_, _, done⟩ := bind_ok done
  obtain ⟨settledDb, committed, done⟩ := bind_ok done
  obtain ⟨_, _, done⟩ := bind_ok done
  cases done
  rw [executionRow_ok] at found
  rw [assertFence_ok] at fenced
  refine ⟨⟨row, found, fenced⟩, ?_⟩
  have sameId := found_executionId found
  obtain ⟨_, _, notCancelled⟩ := bind_ok validated
  rw [require_ok] at notCancelled
  unfold Db.storeLoopResult at committed
  split at committed
  · rename_i late
    right
    rcases late with ⟨ended, overtaken⟩
    rw [lateSignals_isEmpty_eq_false] at overtaken
    rw [← sameId]
    exact deferLoopResult_advanced found fenced ended overtaken committed
  · rename_i settled
    left
    rw [← sameId]
    apply mergeLoopResult_advanced found fenced notCancelled ?_ committed
    intro ended signal pending
    by_contra unlisted
    apply settled
    rw [lateSignals_isEmpty_eq_false]
    exact ⟨ended, signal, pending, unlisted⟩

end Commit

section Fenced

variable {executionId : ExecutionId} {db db' : Db} {env : Env} {ownerId : String}
  {leaseToken : Nat} {snapshot : ExecutionSnapshot}

theorem failExecution_advanced
    (done : Db.failExecution env executionId ownerId leaseToken errorCode message db = .ok (snapshot, db')) :
    db.Holds executionId ownerId leaseToken env.now ∧
      (Advanced executionId (.merged (failureResult errorCode message) []) db db' ∨
        Advanced executionId (.released (.deferred (failureResult errorCode message) [])) db db') :=
  commitLoopResult_advanced done

theorem checkFault_ok {point : String} :
    checkFault env point = .ok value ↔ env.fault point = false :=
  require_ok

theorem requireFinite_ok {value : Seconds} {seconds : Time}
    (finite : requireFinite value message = .ok seconds) : value ≠ .nonFinite := by
  intro impossible
  rw [impossible] at finite
  cases finite

inductive RetryStep (env : Env) (db : Db) (executionId : ExecutionId) (notBefore : Seconds)
    (maxAttempts : Int) : Label → Prop
  | blocked (positive : 0 < maxAttempts) (finite : notBefore ≠ .nonFinite)
      (uncertain : db.hasRecoveryBlockingEffect executionId = true) :
      RetryStep env db executionId notBefore maxAttempts (.released .blockedClaimed)
  | exhausted {row : ExecutionRow} (positive : 0 < maxAttempts)
      (finite : notBefore ≠ .nonFinite) (found : db.executions.find? executionId = some row)
      (safe : db.hasRecoveryBlockingEffect executionId = false)
      (spent : maxAttempts ≤ row.attempt)
      (noFault : env.fault "before_schedule_dead_letter_commit" = false) :
      RetryStep env db executionId notBefore maxAttempts (.released .deadLettered)
  | retried : RetryStep env db executionId notBefore maxAttempts
      (.released (.retried maxAttempts))

theorem scheduleRetryClaimed_advanced {notBefore : Seconds}
    (done : Db.scheduleRetryClaimed env executionId ownerId leaseToken reason errorCode message notBefore maxAttempts db = .ok (snapshot, db')) :
    db.Holds executionId ownerId leaseToken env.now ∧
      ∃ label, RetryStep env db executionId notBefore maxAttempts label ∧
        Advanced executionId label db db' := by
  obtain ⟨_, positive, done⟩ := bind_ok done
  obtain ⟨_, finite, done⟩ := bind_ok done
  obtain ⟨row, found, done⟩ := bind_ok done
  rw [require_ok] at positive
  obtain ⟨_, fenced, done⟩ := bind_ok done
  rw [executionRow_ok] at found
  rw [assertFence_ok] at fenced
  obtain rfl := found_executionId found
  refine ⟨⟨row, found, fenced⟩, ?_⟩
  split at done
  · rename_i blocked
    obtain ⟨_, written, done⟩ := bind_ok done
    obtain ⟨_, _, done⟩ := bind_ok done
    cases done
    exact ⟨_, .blocked positive (requireFinite_ok finite) blocked,
      blockClaimedForManualRecovery_advanced found fenced blocked written⟩
  · rename_i safe
    rw [Bool.not_eq_true] at safe
    split at done
    · rename_i spent
      obtain ⟨_, written, done⟩ := bind_ok done
      obtain ⟨_, noFault, done⟩ := bind_ok done
      obtain ⟨_, _, done⟩ := bind_ok done
      cases done
      rw [checkFault_ok] at noFault
      exact ⟨_, .exhausted positive (requireFinite_ok finite) found safe spent noFault,
        deadLetterClaimedRow_advanced found fenced written⟩
    · rename_i within
      obtain ⟨_, written, done⟩ := bind_ok done
      obtain ⟨_, _, done⟩ := bind_ok done
      obtain ⟨_, _, done⟩ := bind_ok done
      cases done
      exact ⟨_, .retried, scheduleRetryRow_advanced found fenced safe within written⟩

theorem deadLetterClaimed_advanced
    (done : Db.deadLetterClaimed env executionId ownerId leaseToken reason errorCode message maxAttempts db = .ok (snapshot, db')) :
    db.Holds executionId ownerId leaseToken env.now ∧
      env.fault "before_dead_letter_commit" = false ∧
      Advanced executionId (.released .deadLettered) db db' := by
  obtain ⟨row, found, done⟩ := bind_ok done
  obtain ⟨_, fenced, done⟩ := bind_ok done
  obtain ⟨_, written, done⟩ := bind_ok done
  obtain ⟨_, noFault, done⟩ := bind_ok done
  obtain ⟨_, _, done⟩ := bind_ok done
  cases done
  rw [executionRow_ok] at found
  rw [assertFence_ok] at fenced
  rw [checkFault_ok] at noFault
  obtain rfl := found_executionId found
  exact ⟨⟨row, found, fenced⟩, noFault, deadLetterClaimedRow_advanced found fenced written⟩

theorem requeueClaimed_advanced
    (done : Db.requeueClaimed env executionId ownerId leaseToken reason db = .ok (snapshot, db')) :
    db.Holds executionId ownerId leaseToken env.now ∧
      Advanced executionId (.released .requeuedClaimed) db db' := by
  obtain ⟨row, found, done⟩ := bind_ok done
  obtain ⟨_, fenced, done⟩ := bind_ok done
  obtain ⟨_, written, done⟩ := bind_ok done
  obtain ⟨_, _, done⟩ := bind_ok done
  cases done
  rw [executionRow_ok] at found
  rw [assertFence_ok] at fenced
  obtain rfl := found_executionId found
  obtain rfl := fenced.current
  refine ⟨⟨row, found, fenced⟩, ?_⟩
  have present : (db.aggregate row.executionId).row = some row := found
  have chain := (((Moved.refl db row.executionId).setAttemptByToken row.leaseToken
    .queued).updateExecution present).appendEvent written
  exact chain.advanced (.released_plain rfl (selects_token rfl) present
    (lease_held rfl fenced) trivial rfl)

end Fenced

section Unfenced

variable {db db' : Db} {env : Env} {leaseTtlSeconds : Seconds}

theorem heartbeat_advanced {executionId : ExecutionId} {ownerId : String} {leaseToken : Nat}
    {held : Bool}
    (done : Db.heartbeat env executionId ownerId leaseToken leaseTtlSeconds db = .ok (held, db')) :
    (held = true ∧ db.Holds executionId ownerId leaseToken env.now ∧
        Advanced executionId .renewed db db') ∨
      (held = false ∧ ¬ db.Holds executionId ownerId leaseToken env.now ∧ db' = db) := by
  obtain ⟨ttl, _, done⟩ := bind_ok done
  change (if (db.executions.find? executionId).any
    (fun row => decide (row.Fenced ownerId leaseToken env.now)) = true then _ else _) =
      Except.ok (held, db') at done
  split at done
  · rename_i current
    cases done
    left
    rw [Option.any_eq_true] at current
    rcases current with ⟨row, found, fenced⟩
    rw [decide_eq_true_iff] at fenced
    obtain rfl := fenced.current
    refine ⟨rfl, ⟨row, found, fenced⟩, ?_⟩
    have chosen := And.intro (found_executionId found) fenced
    refine Moved.advanced (.updateAttempts (.updateExecutions (.refl db executionId)
      (fun _ both => both.1) found chosen) (fun _ => Iff.rfl)) (.renewed found fenced)
  · rename_i stale
    cases done
    right
    have lost : ¬ db.Holds executionId ownerId leaseToken env.now := by
      rintro ⟨row, found, fenced⟩
      apply stale
      rw [Option.any_eq_true]
      exact ⟨row, found, decide_eq_true fenced⟩
    refine ⟨rfl, lost, ?_⟩
    have same : db.executions.update
        (fun row => row.executionId = executionId ∧ row.Fenced ownerId leaseToken env.now)
        (fun row => row.renewed (env.now + ttl) env.now) (fun _ => rfl) = db.executions := by
      apply Table.update_of_none
      rintro row member ⟨sameId, fenced⟩
      exact lost ⟨row, sameId ▸ Table.find?_of_mem member, fenced⟩
    unfold Db.updateExecutions
    rw [same]

private theorem updateToolEffects_elsewhere {other : ExecutionId} {p : ToolEffectRow → Prop}
    [DecidablePred p] {assign : ToolEffectRow → ToolEffectRow}
    {keeps : ∀ row, (assign row).effectKey = row.effectKey}
    (sameOwner : ∀ row, (assign row).executionId = row.executionId)
    (absent : ∀ row ∈ db.toolEffects.rows, p row → row.executionId ≠ other) :
    (db.updateToolEffects p assign keeps).aggregate other = db.aggregate other := by
  unfold Db.aggregate
  congr 1
  change (db.toolEffects.update p assign keeps).select _ = _
  apply Table.select_update_of_disjoint
  · intro row
    rw [sameOwner]
  · intro row member owned selected
    exact absent row member selected owned

theorem recordToolEffect_advanced {executionId : ExecutionId} {effectKey : EffectKey}
    {toolName requestHash : String} {status : ToolEffectStatus} {result : Option JsonObject}
    (done : Db.recordToolEffect env executionId effectKey toolName requestHash status result db = .ok (value, db')) :
    Advanced executionId .effectRecorded db db' := by
  unfold Db.recordToolEffect at done
  simp only at done
  split at done
  · rename_i existing found
    obtain ⟨_, checked, done⟩ := bind_ok done
    obtain ⟨_, owned, _⟩ := bind_ok checked
    rw [require_ok] at owned
    cases done
    refine { here := .effectRecorded, elsewhere := ?_, commands := fun _ _ same => same }
    intro other different
    apply updateToolEffects_elsewhere
    · intro row
      rfl
    · intro row member sameKey sameOwner
      have sameRow : row = existing := by
        have looked := Table.find?_of_mem member
        rw [sameKey, found] at looked
        exact (Option.some.inj looked).symm
      exact different (sameOwner.symm.trans (sameRow ▸ owned.1))
  · obtain ⟨_, _, done⟩ := bind_ok done
    obtain ⟨toolEffects, taken, done⟩ := bind_ok done
    rw [orThrow_ok] at taken
    cases done
    refine { here := .effectRecorded, elsewhere := ?_, commands := fun _ _ same => same }
    intro other different
    unfold Db.aggregate
    congr 1
    change toolEffects.select _ = _
    rw [Table.select_insert? taken, if_neg (fun same => different same.symm), List.append_nil]
    rfl

theorem updateOutbox_aggregate (executionId : ExecutionId) {p : OutboxRow → Prop}
    [DecidablePred p] {assign : OutboxRow → OutboxRow} {keeps : ∀ row, (assign row).id = row.id}
    (sameOwner : ∀ row, (assign row).executionId = row.executionId) :
    (db.updateOutbox p assign keeps).aggregate executionId =
      (db.aggregate executionId).mapOutbox p assign := by
  have stable : ∀ row : OutboxRow,
      (assign row).executionId = executionId ↔ row.executionId = executionId := by
    intro row
    rw [sameOwner]
  unfold Db.aggregate Aggregate.mapOutbox
  congr 1
  exact Table.select_update _ _ _ _ keeps stable

variable {subjectRefPrefix : Option String}

theorem outboxClaimIds_claimable {now : Time} {limit : Int} {row : OutboxRow}
    (member : row ∈ db.outbox.rows)
    (chosen : row.id ∈ db.outboxClaimIds now subjectRefPrefix limit) :
    db.OutboxClaimable now subjectRefPrefix row := by
  unfold Db.outboxClaimIds at chosen
  obtain ⟨other, taken, sameId⟩ := List.mem_map.1 chosen
  have sorted := List.mem_of_mem_take taken
  rw [List.mem_insertionSort, Table.mem_select] at sorted
  have sameRow : other = row := by
    have looked := Table.find?_of_mem sorted.1
    rw [sameId, Table.find?_of_mem member] at looked
    exact (Option.some.inj looked).symm
  exact sameRow ▸ sorted.2

theorem claimOutboxIds_aggregate (executionId : ExecutionId) (ids : List Nat)
    (ownerId claimToken : String) (claimExpiresAt : Time) :
    (db.claimOutboxIds ids ownerId claimToken claimExpiresAt).2.aggregate executionId =
      (db.aggregate executionId).mapOutbox (fun row => row.id ∈ ids ∧ row.deliveredAt.isNone = true)
        (fun row => row.claimedBy ownerId claimToken claimExpiresAt) :=
  updateOutbox_aggregate executionId (fun _ => rfl)

variable {events : List ExecutionOutboxEvent}

theorem claimOutboxEvents_traced {ownerId : String} {limit : Int}
    (allowed : ∀ id, allows id .outboxClaimed)
    (done : Db.claimOutboxEvents env ownerId limit leaseTtlSeconds subjectRefPrefix db = .ok (events, db')) :
    Traced allows db db' := by
  obtain ⟨ttl, _, done⟩ := bind_ok done
  simp only at done
  split at done
  · cases done
    exact .refl _
  · cases done
    refine .of_steps (fun executionId => Or.inr ⟨.outboxClaimed, allowed executionId, ?_⟩) rfl
    rw [claimOutboxIds_aggregate]
    apply @Transition.outboxClaimed _ _ _ _ _ _ env.now
    intro row member chosen
    obtain ⟨inTable, owned⟩ := (Table.mem_select _).1 member
    obtain ⟨_, free, _, head⟩ := outboxClaimIds_claimable inTable chosen
    refine ⟨free, ?_⟩
    rw [← owned]
    exact head

theorem ackOutboxEvents_traced {ownerId claimToken : String} {count : Nat}
    (allowed : ∀ id, allows id .outboxDelivered)
    (done : Db.ackOutboxEvents env events ownerId claimToken db = .ok (count, db')) :
    Traced allows db db' := by
  cases done
  refine .of_steps (fun executionId => Or.inr ⟨.outboxDelivered, allowed executionId, ?_⟩) rfl
  have mapped : ∀ ids, (db.updateOutbox (Acknowledges ids ownerId claimToken env.now)
      (fun row => row.delivered env.now)).aggregate executionId =
        (db.aggregate executionId).mapOutbox (Acknowledges ids ownerId claimToken env.now)
          (fun row => row.delivered env.now) :=
    fun _ => updateOutbox_aggregate executionId (fun _ => rfl)
  exact mapped _ ▸ .outboxDelivered

end Unfenced

end AnnaAgent.Execution
