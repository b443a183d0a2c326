/-
Signals: when they count as consumed, and what may be left behind.

A signal is acknowledged by a committed loop result that lists it, and by
nothing else.  Every path that finishes an execution under a loop result looks
at the pending signals first; dead-lettering does not.
-/

import AnnaAgent.Execution.Idempotency

namespace AnnaAgent.Execution

open Foundation

variable {aggregate : Aggregate}

namespace Aggregate

theorem pending_of_signals {left right : Aggregate} (same : left.signals = right.signals) :
    left.pending = right.pending := by
  unfold pending
  rw [same]

theorem pending_acknowledge (aggregate : Aggregate) (signalIds : List SignalId) (appliedAt : Time) :
    (aggregate.acknowledge signalIds appliedAt).pending =
      aggregate.pending.filter (fun signal => signal.signalId ∉ signalIds) := by
  unfold pending acknowledge
  induction aggregate.signals with
  | nil => rfl
  | cons head tail ih =>
    rw [List.map_cons, List.filter_cons, List.filter_cons, ih]
    by_cases unapplied : head.appliedAt = none
    · by_cases listed : head.signalId ∈ signalIds
      · simp [unapplied, listed]
      · simp [unapplied, listed]
    · simp [unapplied]

theorem pending_acknowledge_nil {signalIds : List SignalId} {appliedAt : Time}
    (all : ∀ signal ∈ aggregate.pending, signal.signalId ∈ signalIds) :
    (aggregate.acknowledge signalIds appliedAt).pending = [] := by
  rw [pending_acknowledge, List.filter_eq_nil_iff]
  intro signal member
  simp [all signal member]

end Aggregate

variable {executionId : ExecutionId} {before after : Aggregate} {signalId : SignalId}
  {signalIds : List SignalId} {label : Label}

theorem Transition.pending_nil (step : Transition executionId before label after)
    (quiet : ∀ signalId, label ≠ .signaled signalId) (none : before.pending = []) :
    after.pending = [] := by
  cases step with
  | started | cancelled | claimed | reclaimed | renewed | effectRecorded | outboxClaimed
  | outboxDelivered => exact none
  | signaled present alive unapplied named => exact absurd rfl (quiet _)
  | @merged row ownerId now result signalIds emissions present held allowed settled plain
      emitted =>
      apply Aggregate.pending_acknowledge_nil
      have samePending : (before.emitAll executionId emissions).pending = before.pending :=
        Aggregate.pending_of_signals (Aggregate.emitAll_signals _ _ _)
      intro signal pending
      have still : signal ∈ before.pending := samePending ▸ pending
      rw [none] at still
      exact absurd still List.not_mem_nil
  | @released row kind now notBefore lastErrorCode emission present lease guarded named =>
    change (before.acknowledge kind.consumed now).pending = []
    apply Aggregate.pending_acknowledge_nil
    intro signal pending
    rw [none] at pending
    exact absurd pending List.not_mem_nil

def Label.Consumes (label : Label) (signalId : SignalId) : Prop :=
  match label with
  | .merged _ signalIds => signalId ∈ signalIds
  | .released kind => signalId ∈ kind.consumed
  | _ => False

def Aggregate.Unapplied (aggregate : Aggregate) (signalId : SignalId) : Prop :=
  ∀ signal ∈ aggregate.signals, signal.signalId = signalId → signal.appliedAt = none

theorem Aggregate.Unapplied.acknowledge (unapplied : aggregate.Unapplied signalId)
    (unlisted : signalId ∉ signalIds) (appliedAt : Time) :
    (aggregate.acknowledge signalIds appliedAt).Unapplied signalId := by
  intro signal member sameId
  obtain ⟨old, oldMember, shape⟩ := List.mem_map.1 member
  by_cases chosen : old.signalId ∈ signalIds ∧ old.appliedAt = none
  · rw [if_pos chosen] at shape
    have oldId : old.signalId = signalId := by
      rw [← sameId, ← shape]
    exact absurd (oldId ▸ chosen.1) unlisted
  · rw [if_neg chosen] at shape
    rw [← shape] at sameId ⊢
    exact unapplied old oldMember sameId

theorem Transition.unapplied (step : Transition executionId before label after)
    (quiet : ¬ label.Consumes signalId) (unapplied : before.Unapplied signalId) :
    after.Unapplied signalId := by
  cases step with
  | started | cancelled | claimed | reclaimed | renewed | effectRecorded | outboxClaimed
  | outboxDelivered => exact unapplied
  | signaled present alive fresh named =>
    intro signal member sameId
    rcases List.mem_append.1 member with old | new
    · exact unapplied signal old sameId
    · rw [List.mem_singleton.1 new]
      exact fresh
  | @merged row ownerId now result signalIds emissions present held allowed settled plain
      emitted =>
      have emittedUnapplied : (before.emitAll executionId emissions).Unapplied signalId := by
        unfold Aggregate.Unapplied
        rw [Aggregate.emitAll_signals]
        exact unapplied
      exact emittedUnapplied.acknowledge quiet _
  | @released row kind now notBefore lastErrorCode emission present lease guarded named =>
    exact unapplied.acknowledge quiet now

/-- The execution took over the state, the checkpoint and the events of the
result. -/
structure MergedInto (result : LoopResult) (row row' : ExecutionRow)
    (events events' : List EventRow) : Prop where
  state : row'.state = dictUpdate row.state result.state
  checkpoint : row'.checkpoint = dictUpdate row.checkpoint result.checkpoint
  events : ∃ appended, events' = events ++ appended ∧
    appended.map EventRow.emitted = result.events ++ closingEvents result

/-- The terminal result was dropped for signals it had not consumed, and the
execution queued again. -/
structure DeferredFor (result : LoopResult) (late : List SignalRow) (row row' : ExecutionRow)
    (events events' : List EventRow) : Prop where
  ended : result.status.terminal = true
  overtaken : late ≠ []
  queued : row'.status = .queued
  state : row'.state = row.state
  checkpoint : row'.checkpoint = row.checkpoint
  events : ∃ event, events' = events ++ [event] ∧ event.type = "execution.result_deferred"

theorem Transition.merged_inv {result : LoopResult}
    (step : Transition executionId before (.merged result signalIds) after) :
    ∃ row row', before.row = some row ∧ after.row = some row' ∧
      MergedInto result row row' before.events after.events := by
  cases step with
  | merged present held allowed settled plain emitted =>
    obtain ⟨events, log, contents⟩ := before.emitAll_events executionId _
    exact ⟨_, _, present, rfl, rfl, rfl, events, log, contents.trans emitted⟩

theorem Transition.deferred_inv {result : LoopResult}
    (step : Transition executionId before (.released (.deferred result signalIds)) after) :
    ∃ row row', before.row = some row ∧ after.row = some row' ∧
      DeferredFor result (before.pending.filter (fun signal => signal.signalId ∉ signalIds))
        row row' before.events after.events := by
  cases step with
  | released present lease guarded named =>
    rcases guarded with ⟨ended, signal, pending, unlisted⟩
    refine ⟨_, _, present, rfl, ended, ?_, rfl, rfl, rfl, _, rfl, named⟩
    apply List.ne_nil_of_mem (a := signal)
    rw [List.mem_filter, decide_eq_true_iff]
    exact ⟨pending, unlisted⟩

variable {call : Call} {db : Db}

theorem consumed_of_applied {digest : Digest} {db' : Db} {outcome : Outcome}
    {signal signal' : SignalRow} (done : perform digest call db = (outcome, db'))
    (member : signal ∈ db.signalsOf executionId) (pending : signal.appliedAt = none)
    (member' : signal' ∈ db'.signalsOf executionId) (sameId : signal'.signalId = signal.signalId)
    (applied : signal'.appliedAt ≠ none) :
    ∃ label, call.Allows db executionId label ∧ label.Consumes signal.signalId := by
  obtain ⟨trace, run, allowed⟩ := (perform_traced done).moves executionId
  by_contra none
  have start : (db.aggregate executionId).Unapplied signal.signalId := by
    intro other otherMember otherId
    have inTable := (Table.mem_select _).1 member
    have otherInTable := (Table.mem_select _).1 otherMember
    have same : other = signal :=
      List.inj_on_of_nodup_map db.signals.keysNodup otherInTable.1 inTable.1 otherId
    rw [same]
    exact pending
  apply applied
  refine run.keeps (fun aggregate => aggregate.Unapplied signal.signalId) ?_ start signal' member'
    sameId
  intro move inTrace step unapplied
  exact step.unapplied (fun consumes => none ⟨_, allowed move inTrace, consumes⟩) unapplied

theorem commit_of_consumes (allowed : call.Allows db executionId label)
    (consumes : label.Consumes signalId) :
    ∃ ownerId leaseToken result signalIds, call.operation =
      .commitLoopResult executionId ownerId leaseToken result signalIds ∧
      signalId ∈ signalIds.getD result.appliedSignalIds := by
  have source := allowed.source
  cases label with
  | merged result signalIds =>
    rcases source with ⟨ownerId, leaseToken, ⟨listed, isCommit, isList⟩ | failure⟩
    · exact ⟨ownerId, leaseToken, result, listed, isCommit, isList ▸ consumes⟩
    · rcases failure with ⟨_, _, _, _, empty⟩
      subst empty
      exact absurd consumes List.not_mem_nil
  | released kind =>
    cases kind with
    | deferred result signalIds =>
      rcases source with ⟨ownerId, leaseToken, ⟨listed, isCommit, isList⟩ | failure⟩
      · exact ⟨ownerId, leaseToken, result, listed, isCommit, isList ▸ consumes⟩
      · rcases failure with ⟨_, _, _, _, empty⟩
        subst empty
        exact absurd consumes List.not_mem_nil
    | retried | deadLettered | blockedClaimed | blockedLapsed | requeuedClaimed
    | requeuedLapsed => exact absurd consumes List.not_mem_nil
  | started | signaled | cancelled | claimed | reclaimed | renewed | effectRecorded
  | outboxClaimed | outboxDelivered => exact consumes.elim

/-- A signal becomes applied in a successful `commit_loop_result` that lists it,
which merges the result or defers it for signals that came later. -/
theorem applied_with_result (digest : Digest) (call : Call) (db db' : Db) (outcome : Outcome)
    (executionId : ExecutionId) (signal signal' : SignalRow)
    (done : perform digest call db = (outcome, db'))
    (member : signal ∈ db.signalsOf executionId) (pending : signal.appliedAt = none)
    (member' : signal' ∈ db'.signalsOf executionId) (sameId : signal'.signalId = signal.signalId)
    (applied : signal'.appliedAt ≠ none) :
    ∃ ownerId leaseToken result signalIds snapshot row row',
      call.operation = .commitLoopResult executionId ownerId leaseToken result signalIds ∧
      outcome = .ok (.snapshot snapshot) ∧
      signal.signalId ∈ signalIds.getD result.appliedSignalIds ∧
      db.executions.find? executionId = some row ∧
      db'.executions.find? executionId = some row' ∧
      (MergedInto result row row' (db.eventsOf executionId) (db'.eventsOf executionId) ∨
        DeferredFor result ((db.pendingSignals executionId).filter
            (fun other => other.signalId ∉ signalIds.getD result.appliedSignalIds))
          row row' (db.eventsOf executionId) (db'.eventsOf executionId)) := by
  obtain ⟨label, allowed, consumes⟩ :=
    consumed_of_applied done member pending member' sameId applied
  obtain ⟨ownerId, leaseToken, result, signalIds, isCommit, listed⟩ :=
    commit_of_consumes allowed consumes
  rcases call with ⟨env, operation⟩
  subst isCommit
  rcases answer_atomically done with ⟨snapshot, committed, returned⟩ | ⟨_, same⟩
  · obtain ⟨_, merged | deferred⟩ := commitLoopResult_advanced committed
    · rcases merged.here.merged_inv with ⟨row, row', present, present', into⟩
      exact ⟨ownerId, leaseToken, result, signalIds, snapshot, row, row', rfl, returned, listed,
        present, present', Or.inl into⟩
    · rcases deferred.here.deferred_inv with ⟨row, row', present, present', instead⟩
      exact ⟨ownerId, leaseToken, result, signalIds, snapshot, row, row', rfl, returned, listed,
        present, present', Or.inr instead⟩
  · exfalso
    subst same
    have inTable := (Table.mem_select _).1 member
    have inTable' := (Table.mem_select _).1 member'
    have sameRow : signal' = signal :=
      List.inj_on_of_nodup_map db'.signals.keysNodup inTable'.1 inTable.1 sameId
    rw [sameRow] at applied
    exact applied pending

/-- A terminal result that commits after a second signal has arrived. -/
def overtakenCommit : Call :=
  callAt 4 "" (.commitLoopResult "exec_a" "worker" 1
    { status := .succeeded, state := [("answer", .str "stale")],
      appliedSignalIds := ["sig_first"] } none)

def overtakenDb : Db :=
  performAll sampleDigest Db.empty
    [callAt 0 "a" (sampleStart "start"), callAt 1 "first" (sampleSignal "first" "exec_a"),
     callAt 2 "" (.claimNext "worker" (.finite 30)),
     callAt 3 "second" (sampleSignal "second" "exec_a")]

def Db.signal? (db : Db) (executionId : ExecutionId) (signalId : SignalId) : Option SignalRow :=
  (db.signalsOf executionId).find? (fun signal => signal.signalId = signalId)

theorem signal?_some {appliedAt : Option Time}
    (looked : (db.signal? executionId signalId).map SignalRow.appliedAt = some appliedAt) :
    ∃ signal ∈ db.signalsOf executionId, signal.signalId = signalId ∧
      signal.appliedAt = appliedAt := by
  obtain ⟨signal, found, applied⟩ := Option.map_eq_some_iff.1 looked
  unfold Db.signal? at found
  have sameId := List.find?_some found
  exact ⟨signal, List.mem_of_find?_eq_some found, of_decide_eq_true sameId, applied⟩

theorem overtaken_signal :
    (∃ signal ∈ overtakenDb.signalsOf "exec_a", signal.signalId = "sig_first" ∧
      signal.appliedAt = none) ∧
    ∃ signal ∈ (perform sampleDigest overtakenCommit overtakenDb).2.signalsOf "exec_a",
      signal.signalId = "sig_first" ∧ signal.appliedAt = some 4 :=
  ⟨signal?_some (by decide +kernel), signal?_some (by decide +kernel)⟩

theorem applied_with_result_overtaken :
    ∃ ownerId leaseToken result signalIds snapshot row row',
      overtakenCommit.operation =
        .commitLoopResult "exec_a" ownerId leaseToken result signalIds ∧
      (perform sampleDigest overtakenCommit overtakenDb).1 = .ok (.snapshot snapshot) ∧
      "sig_first" ∈ signalIds.getD result.appliedSignalIds ∧
      overtakenDb.executions.find? "exec_a" = some row ∧
      (perform sampleDigest overtakenCommit overtakenDb).2.executions.find? "exec_a" =
        some row' ∧
      (MergedInto result row row' (overtakenDb.eventsOf "exec_a")
          ((perform sampleDigest overtakenCommit overtakenDb).2.eventsOf "exec_a") ∨
        DeferredFor result ((overtakenDb.pendingSignals "exec_a").filter
            (fun other => other.signalId ∉ signalIds.getD result.appliedSignalIds))
          row row' (overtakenDb.eventsOf "exec_a")
          ((perform sampleDigest overtakenCommit overtakenDb).2.eventsOf "exec_a")) := by
  obtain ⟨⟨signal, member, isFirst, pending⟩, signal', member', isFirst', applied⟩ :=
    overtaken_signal
  rw [← isFirst]
  exact applied_with_result sampleDigest overtakenCommit overtakenDb _ _ "exec_a" signal signal'
    rfl member pending member' (isFirst'.trans isFirst.symm) (by rw [applied]; nofun)

/-- Every acknowledged signal is listed by a loop result that the same
transaction merges. -/
def MergedWhenApplied (digest : Digest) : Prop :=
  ∀ call db db' outcome executionId signal signal', ReachableDb digest db →
    perform digest call db = (outcome, db') →
    signal ∈ db.signalsOf executionId → signal.appliedAt = none →
    signal' ∈ db'.signalsOf executionId → signal'.signalId = signal.signalId →
    signal'.appliedAt ≠ none →
    ∃ ownerId leaseToken result signalIds row row',
      call.operation = .commitLoopResult executionId ownerId leaseToken result signalIds ∧
      signal.signalId ∈ result.appliedSignalIds ∧
      db.executions.find? executionId = some row ∧
      db'.executions.find? executionId = some row' ∧
      MergedInto result row row' (db.eventsOf executionId) (db'.eventsOf executionId)

theorem applied_without_merge : ¬ MergedWhenApplied sampleDigest := by
  intro merged
  obtain ⟨⟨signal, member, isFirst, pending⟩, signal', member', isFirst', applied⟩ :=
    overtaken_signal
  obtain ⟨_, _, result, _, row, row', isCommit, _, found, found', into⟩ :=
    merged overtakenCommit overtakenDb (perform sampleDigest overtakenCommit overtakenDb).2
      (perform sampleDigest overtakenCommit overtakenDb).1 "exec_a" signal signal'
      (performAll_reachable _ _) rfl member pending member' (isFirst'.trans isFirst.symm)
      (by rw [applied]; nofun)
  have before : (overtakenDb.executions.find? "exec_a").map (fun row => row.state.length) =
      some 0 := by decide +kernel
  have after : ((perform sampleDigest overtakenCommit overtakenDb).2.executions.find?
      "exec_a").map (fun row => row.state.length) = some 0 := by decide +kernel
  rw [found] at before
  rw [found'] at after
  have empty : row.state = [] := List.length_eq_zero_iff.1 (Option.some.inj before)
  have kept : row'.state.length = 0 := Option.some.inj after
  cases isCommit
  rw [into.state, empty] at kept
  cases kept

/-! ### Finished executions -/

/-- A finished execution, cancelled ones apart, has no pending signal. -/
def Aggregate.Consumed (aggregate : Aggregate) : Prop :=
  ∀ row, aggregate.row = some row → row.status = .succeeded ∨ row.status = .failed →
    aggregate.pending = []

theorem Aggregate.Consumed.of_status {row : ExecutionRow} (written : aggregate.row = some row)
    (fits : row.status = .succeeded ∨ row.status = .failed → aggregate.pending = []) :
    aggregate.Consumed := by
  intro other found finished
  cases written.symm.trans found
  exact fits finished

variable {status : ExecutionStatus}

theorem not_finished_of_alive (alive : status.terminal = false) :
    ¬ (status = .succeeded ∨ status = .failed) := by
  rintro (succeeded | failed)
  · rw [succeeded] at alive
    cases alive
  · rw [failed] at alive
    cases alive

theorem Transition.consumed (step : Transition executionId before label after)
    (careful : label = .released .deadLettered → before.pending = []) (consumed : before.Consumed) :
    after.Consumed := by
  cases step with
  | @started row emission absent queued unclaimed free named =>
    apply Aggregate.Consumed.of_status rfl
    intro finished
    rw [queued] at finished
    exact absurd finished (not_finished_of_alive rfl)
  | signaled present alive unapplied named =>
    exact .of_status rfl (fun finished => absurd finished (not_finished_of_alive alive))
  | cancelled present alive named =>
    apply Aggregate.Consumed.of_status rfl
    rintro (impossible | impossible)
    · cases impossible
    · cases impossible
  | claimed present idle named | reclaimed present lapsed safe expiryNamed named =>
    exact .of_status rfl (fun finished => absurd finished (not_finished_of_alive rfl))
  | renewed present held =>
    exact .of_status rfl (fun finished =>
      absurd finished (not_finished_of_alive (alive_of_running held.1)))
  | @merged row ownerId now result signalIds emissions present held allowed settled plain
      emitted =>
      apply Aggregate.Consumed.of_status rfl
      intro finished
      apply Aggregate.pending_acknowledge_nil
      have ended : result.status.terminal = true := by
        rcases finished with succeeded | failed
        · change result.status = .succeeded at succeeded
          rw [succeeded]
          rfl
        · change result.status = .failed at failed
          rw [failed]
          rfl
      have samePending : (before.emitAll executionId emissions).pending = before.pending :=
        Aggregate.pending_of_signals (Aggregate.emitAll_signals _ _ _)
      intro signal pending
      exact settled ended signal (samePending ▸ pending)
  | @released row kind now notBefore lastErrorCode emission present lease guarded named =>
    apply Aggregate.Consumed.of_status rfl
    intro finished
    cases kind with
    | deadLettered =>
      change (before.acknowledge [] now).pending = []
      rw [Aggregate.acknowledge_nil]
      exact careful rfl
    | deferred | retried | blockedClaimed | blockedLapsed | requeuedClaimed
    | requeuedLapsed => exact absurd finished (not_finished_of_alive rfl)
  | effectRecorded | outboxClaimed | outboxDelivered => exact consumed

def Call.DeadLetters (call : Call) (db : Db) (executionId : ExecutionId) : Prop :=
  match call.operation with
  | .deadLetterClaimed target ownerId leaseToken _ _ _ _ =>
    executionId = target ∧ db.Holds target ownerId leaseToken call.env.now ∧
      call.env.fault "before_dead_letter_commit" = false
  | .scheduleRetryClaimed target ownerId leaseToken _ _ _ notBefore maxAttempts =>
    executionId = target ∧ db.Holds target ownerId leaseToken call.env.now ∧
      0 < maxAttempts ∧ notBefore ≠ .nonFinite ∧
      db.hasRecoveryBlockingEffect target = false ∧
      (∃ row, db.executions.find? target = some row ∧ maxAttempts ≤ row.attempt) ∧
      call.env.fault "before_schedule_dead_letter_commit" = false
  | _ => False

theorem deadLetters_of_allows (allowed : call.Allows db executionId (.released .deadLettered)) :
    call.DeadLetters db executionId := by
  rcases allowed.source with ⟨ownerId, leaseToken, reason, errorCode, message, maxAttempts, source⟩
  rcases call with ⟨env, operation⟩
  rcases source with isDeadLetter | ⟨notBefore, isRetry⟩
  · cases isDeadLetter
    rcases allowed with ⟨_, holds, noFault, _⟩
    exact ⟨rfl, holds, noFault⟩
  · cases isRetry
    rcases allowed with ⟨_, holds, step⟩
    cases step with
    | exhausted positive finite found safe spent noFault =>
      exact ⟨rfl, holds, positive, finite, safe, ⟨_, found, spent⟩, noFault⟩

theorem not_signaled_of_deadLetters (deadLetters : call.DeadLetters db executionId)
    (signalId : SignalId) :
    ¬ call.Allows db executionId (.signaled signalId) := by
  intro allowed
  rcases allowed.source with ⟨command, maxQueueDepth, isDispatch, _⟩
  unfold Call.DeadLetters at deadLetters
  rw [isDispatch] at deadLetters
  exact deadLetters

/-- When no call dead-letters an execution with pending signals, no finished
execution has one. -/
theorem finished_without_pending {digest : Digest} {trace : List (Move Db Performed)} {last : Db}
    (run : StoreRun digest trace last)
    (careful : ∀ move ∈ trace, ∀ executionId,
      move.label.call.DeadLetters move.before executionId →
      move.before.pendingSignals executionId = [])
    {row : ExecutionRow} (member : row ∈ last.executions.rows)
    (finished : row.status = .succeeded ∨ row.status = .failed) :
    last.pendingSignals row.executionId = [] := by
  have invariant : ∀ executionId, (last.aggregate executionId).Consumed := by
    refine run.keeps (fun db => ∀ executionId, (db.aggregate executionId).Consumed) ?_ ?_
    · intro move inTrace step consumed executionId
      obtain ⟨steps, inner, allowed⟩ := (perform_traced step).moves executionId
      by_cases deadLetters : move.label.call.DeadLetters move.before executionId
      · have none := careful move inTrace executionId deadLetters
        refine (inner.keeps (fun aggregate => aggregate.Consumed ∧ aggregate.pending = []) ?_
          ⟨consumed executionId, none⟩).1
        rintro inside member taken ⟨held, stillNone⟩
        refine ⟨taken.consumed (fun _ => stillNone) held, taken.pending_nil ?_ stillNone⟩
        intro signalId isSignal
        exact not_signaled_of_deadLetters deadLetters signalId (isSignal ▸ allowed inside member)
      · refine inner.keeps Aggregate.Consumed ?_ (consumed executionId)
        intro inside member taken held
        refine taken.consumed ?_ held
        intro isDeadLetter
        exact absurd (deadLetters_of_allows (isDeadLetter ▸ allowed inside member)) deadLetters
    · intro executionId row missing
      cases missing
  exact invariant row.executionId row (Table.find?_of_mem member) finished

theorem find?_of_status
    (looked : (db.executions.find? executionId).map ExecutionRow.status = some status) :
    ∃ row ∈ db.executions.rows, row.executionId = executionId ∧ row.status = status := by
  obtain ⟨row, found, isStatus⟩ := Option.map_eq_some_iff.1 looked
  exact ⟨row, Table.find?_mem found, Table.find?_key found, isStatus⟩

def consumingCalls : List Call :=
  [callAt 0 "a" (sampleStart "start"), callAt 1 "first" (sampleSignal "first" "exec_a"),
   callAt 2 "" (.claimNext "worker" (.finite 30)),
   callAt 3 "" (.commitLoopResult "exec_a" "worker" 1
    { status := .succeeded, appliedSignalIds := ["sig_first"] } none)]

theorem finished_without_pending_consumed :
    ∃ row ∈ (performAll sampleDigest Db.empty consumingCalls).executions.rows,
      row.status = .succeeded ∧
        (performAll sampleDigest Db.empty consumingCalls).pendingSignals row.executionId = [] := by
  have looked : ((performAll sampleDigest Db.empty consumingCalls).executions.find?
      "exec_a").map ExecutionRow.status = some .succeeded := by decide +kernel
  obtain ⟨row, member, _, succeeded⟩ := find?_of_status looked
  refine ⟨row, member, succeeded, ?_⟩
  apply finished_without_pending (record_run sampleDigest Db.empty consumingCalls) ?_ member
    (Or.inl succeeded)
  intro move inTrace executionId deadLetters
  have isCall := call_of_mem_record inTrace
  simp only [consumingCalls, List.mem_cons, List.not_mem_nil, or_false] at isCall
  unfold Call.DeadLetters at deadLetters
  rcases isCall with isCall | isCall | isCall | isCall <;>
    · rw [isCall] at deadLetters
      exact deadLetters.elim

/-- A signal that arrives during the last attempt the retry limit allows. -/
def exhaustedDb : Db :=
  performAll sampleDigest Db.empty
    [callAt 0 "a" (sampleStart "start"), callAt 1 "" (.claimNext "worker" (.finite 30)),
     callAt 2 "first" (sampleSignal "first" "exec_a"),
     callAt 3 "" (.scheduleRetryClaimed "exec_a" "worker" 1 "loop_exception_retryable"
      "timeout" "timed out" (.finite 3) 1)]

theorem failed_with_pending :
    ¬ ∀ db, ReachableDb sampleDigest db → ∀ row ∈ db.executions.rows,
      row.status = .succeeded ∨ row.status = .failed →
      db.pendingSignals row.executionId = [] := by
  intro consumed
  have looked : (exhaustedDb.executions.find? "exec_a").map ExecutionRow.status =
      some .failed := by decide +kernel
  obtain ⟨row, member, isRow, failed⟩ := find?_of_status looked
  have none := consumed exhaustedDb (performAll_reachable _ _) row member (Or.inr failed)
  have one : (exhaustedDb.pendingSignals "exec_a").length = 1 := by decide +kernel
  rw [isRow] at none
  rw [none] at one
  cases one

end AnnaAgent.Execution
